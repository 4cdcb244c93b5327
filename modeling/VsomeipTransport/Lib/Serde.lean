/-
Structs of two strings, and vectors of them, read from a JSON document with
`serde` and `serde_json`.

Their functions are a parameter, `SerdeJson`, over the type of the documents.
What is relied on is `Documented`: a struct is read from an object that has its
fields, whatever else is in it, or from an array of the two, and a vector
element by element. `SerdeJson.reading` shows that this can be met.
-/
import Mathlib.Data.List.Forall2

namespace Serde

/-- A field that comes as a string, and how the string is read. -/
structure Field (α : Type) where
  name : String
  parse : String → Except String α

/-- A struct that derives `Deserialize`. -/
structure Struct (α β : Type) where
  name : String
  fst : Field α
  snd : Field β

/-- What is called of the libraries. A `serde_json::Value` is seen through its
accessors only. -/
structure SerdeJson (V : Type) where
  get : V → String → Option V
  asArray : V → Option (List V)
  asStr : V → Option String
  fromValue : {α β : Type} → Struct α β → V → Except String (α × β)
  fromValues : {α β : Type} → Struct α β → List V → Except String (List (α × β))

namespace SerdeJson

variable {V α β : Type} (json : SerdeJson V)

/-- The values a struct's fields are read from. -/
def parts (st : Struct α β) (v : V) : Option V × Option V :=
  match json.asArray v with
  | none => (json.get v st.fst.name, json.get v st.snd.name)
  | some [fst, snd] => (some fst, some snd)
  | some _ => (none, none)

/-- The texts of a struct's fields, as they stand in the document. -/
structure Texts (st : Struct α β) (v : V) (fst snd : String) : Prop where
  fst : (json.parts st v).1.bind json.asStr = some fst
  snd : (json.parts st v).2.bind json.asStr = some snd

/-- What the libraries promise of what they read. -/
structure Documented : Prop where
  struct : ∀ {α β : Type} (st : Struct α β) (v : V) (a : α) (b : β), json.fromValue st v = .ok (a, b) ↔
    ∃ fst snd, json.Texts st v fst snd ∧ st.fst.parse fst = .ok a ∧ st.snd.parse snd = .ok b
  vector : ∀ {α β : Type} (st : Struct α β) (vs : List V) (xs : List (α × β)),
    json.fromValues st vs = .ok xs ↔ List.Forall₂ (fun v x => json.fromValue st v = .ok x) vs xs

variable {json}

theorem Texts.unique {st : Struct α β} {v : V} {fst fst' snd snd' : String} (h : json.Texts st v fst snd)
    (h' : json.Texts st v fst' snd') : fst = fst' ∧ snd = snd' :=
  ⟨Option.some.inj (h.fst.symm.trans h'.fst), Option.some.inj (h.snd.symm.trans h'.snd)⟩

/-! ## A reader -/

/-- Reads a struct's fields one after the other. -/
def readParts (asStr : V → Option String) (st : Struct α β) (parts : Option V × Option V) : Except String (α × β) :=
  match parts.1.bind asStr, parts.2.bind asStr with
  | some fst, some snd =>
    match st.fst.parse fst, st.snd.parse snd with
    | .ok a, .ok b => .ok (a, b)
    | .error e, _ => .error e
    | _, .error e => .error e
  | none, _ => .error ("missing field " ++ st.fst.name)
  | _, none => .error ("missing field " ++ st.snd.name)

def readAll {γ : Type} (read : V → Except String γ) : List V → Except String (List γ)
  | [] => .ok []
  | v :: vs =>
    match read v, readAll read vs with
    | .ok x, .ok xs => .ok (x :: xs)
    | .error e, _ => .error e
    | _, .error e => .error e

/-- The libraries, over documents with these accessors. -/
def reading (get : V → String → Option V) (asArray : V → Option (List V)) (asStr : V → Option String) :
    SerdeJson V :=
  let accessors : SerdeJson V := ⟨get, asArray, asStr, fun _ _ => .error "", fun _ _ => .error ""⟩
  { accessors with
    fromValue := fun st v => readParts asStr st (accessors.parts st v)
    fromValues := fun st vs => readAll (fun v => readParts asStr st (accessors.parts st v)) vs }

theorem readParts_ok_iff {asStr : V → Option String} {st : Struct α β} {parts : Option V × Option V} {a : α} {b : β} :
    readParts asStr st parts = .ok (a, b) ↔ ∃ fst snd, parts.1.bind asStr = some fst ∧
      parts.2.bind asStr = some snd ∧ st.fst.parse fst = .ok a ∧ st.snd.parse snd = .ok b := by
  unfold readParts
  cases hfst : parts.1.bind asStr with
  | none => simp
  | some fst =>
    cases hsnd : parts.2.bind asStr with
    | none => simp
    | some snd =>
      cases ha : st.fst.parse fst <;> cases hb : st.snd.parse snd <;> simp [ha, hb]

theorem readAll_ok_iff {γ : Type} {read : V → Except String γ} {vs : List V} {xs : List γ} :
    readAll read vs = .ok xs ↔ List.Forall₂ (fun v x => read v = .ok x) vs xs := by
  induction vs generalizing xs with
  | nil => cases xs <;> simp [readAll]
  | cons v vs ih =>
    cases hv : read v with
    | error e => cases xs <;> simp [readAll, hv]
    | ok x =>
      cases hvs : readAll read vs with
      | error e => cases xs <;> simp [readAll, hv, hvs, ← ih]
      | ok ys => cases xs <;> simp [readAll, hv, hvs, ← ih]

theorem reading_documented (get : V → String → Option V) (asArray : V → Option (List V))
    (asStr : V → Option String) : (reading get asArray asStr).Documented where
  struct st v a b := by
    refine readParts_ok_iff.trans ⟨fun h => ?_, fun h => ?_⟩
    · obtain ⟨fst, snd, hfst, hsnd, ha, hb⟩ := h
      exact ⟨fst, snd, ⟨hfst, hsnd⟩, ha, hb⟩
    · obtain ⟨fst, snd, ht, ha, hb⟩ := h
      exact ⟨fst, snd, ht.fst, ht.snd, ha, hb⟩
  vector st vs xs := readAll_ok_iff

end SerdeJson

end Serde
