/-
`vsomeip_config.rs`: what is read of a vsomeip configuration file, and the
transport that is made from one (`lib.rs`).

The file belongs to vsomeip, the crate reads two arrays of it: the first
application, for its name, and the services, for the point-to-point listener.
`newWithConfig_ok_iff` says from which files a transport is made, and
`newWithConfig_strict_iff` that a file without loose ids is read as vsomeip
documents it, whatever else is in it. What `serde_json` does is assumed
(`SerdeJson.Documented`).
-/
import VsomeipTransport.Lib.Serde
import VsomeipTransport.Transport
import VsomeipTransport.VsomeipConfig

namespace VsomeipTransport

open Serde

abbrev ConfigPath := String

/-- The files, as `read_json_file` finds them, with what reads the documents
`V` in them. A document that has a name twice is the one its parser makes of it. -/
structure ConfigFiles (V : Type) where
  json : SerdeJson V
  readJsonFile : ConfigPath → Option (Except String V)
  debugPath : ConfigPath → String

/-- `vsomeip_config::VsomeipApplicationConfig`. -/
structure VsomeipApplicationConfig where
  name : String
  id : ClientId
deriving DecidableEq, Repr

/-- A field with `deserialize_with = "deserialize_hex_u16"`. -/
def hexField (name : String) : Serde.Field UInt16 := ⟨name, deserializeHexU16⟩

def stringField (name : String) : Serde.Field String := ⟨name, .ok⟩

def serviceStruct : Struct ServiceId InstanceId := ⟨"ServiceConfig", hexField "service", hexField "instance"⟩

def applicationStruct : Struct String ClientId := ⟨"VsomeipApplicationConfig", stringField "name", hexField "id"⟩

namespace ConfigFiles

variable {V : Type} (files : ConfigFiles V)

/-- What `read_json_file` says of a path where there is no file. -/
def read (path : ConfigPath) : Except String V :=
  (files.readJsonFile path).getD (.error "No such file or directory (os error 2)")

/-- The array under a name of a document. -/
def arrayUnder (name : String) (doc : V) : Option (List V) := (files.json.get doc name).bind files.json.asArray

end ConfigFiles

section

variable {V : Type}

def extractApplication (files : ConfigFiles V) (path : ConfigPath) : Except UStatus VsomeipApplicationConfig :=
  match files.read path with
  | .error e => .error (.failWithCode .invalidArgument ("Failed to read JSON File: " ++ e))
  | .ok jsonData =>
    match files.arrayUnder "applications" jsonData with
    | none => .error (.failWithCode .invalidArgument ("'applications' array is not Found: " ++ files.debugPath path))
    | some [] => .error (.failWithCode .invalidArgument "applications array is Empty")
    | some (application :: _) =>
      match files.json.fromValue applicationStruct application with
      | .error e => .error (.failWithCode .invalidArgument (": " ++ e))
      | .ok (name, id) => .ok ⟨name, id⟩

def extractServices (files : ConfigFiles V) (path : ConfigPath) : Except UStatus (List ServiceConfig) :=
  match files.read path with
  | .error e => .error (.failWithCode .invalidArgument ("Failed to read JSON File: " ++ e))
  | .ok jsonData =>
    match files.arrayUnder "services" jsonData with
    | none => .error (.failWithCode .invalidArgument ("'services' Array is not Found : " ++ files.debugPath path))
    | some [] => .error (.failWithCode .invalidArgument "services array is Empty")
    | some services =>
      match files.json.fromValues serviceStruct services with
      | .error e => .error (.failWithCode .invalidArgument ("Failed to change service: " ++ e))
      | .ok configs => .ok (configs.map fun (service, instanceId) => ⟨service, instanceId⟩)

/-- What `new_with_config` and `new_internal` check and gather before they
start anything. The services are read later, each time they are needed, and
from the same file. -/
def newWithConfig (up : UpRust) (files : ConfigFiles V) (uri : UUri) (remoteAuthority : AuthorityName)
    (path : ConfigPath) : Except UStatus TransportConfig :=
  match files.readJsonFile path with
  | none => .error (.failWithCode .notFound ("Configuration file not found at: " ++ files.debugPath path))
  | some _ =>
    match extractApplication files path with
    | .error e => .error e
    | .ok application =>
      match TransportUri.check up uri with
      | .error e => .error e
      | .ok uri => .ok ⟨application.name, uri, remoteAuthority, some (extractServices files path)⟩

/-! ## What is read -/

variable {files : ConfigFiles V} {path : ConfigPath}

/-- The text is read as the id. -/
def LikeHexId (s : String) (id : UInt16) : Prop := ∃ prefixes plus, HexLike s prefixes plus id

/-- A service with the texts of its ids as `Id` has them. -/
def ServiceConfig.WrittenAs (json : SerdeJson V) (Id : String → UInt16 → Prop) (service : ServiceConfig) (v : V) :
    Prop :=
  ∃ s i, json.Texts serviceStruct v s i ∧ Id s service.service ∧ Id i service.instanceId

def VsomeipApplicationConfig.WrittenAs (json : SerdeJson V) (Id : String → UInt16 → Prop)
    (application : VsomeipApplicationConfig) (v : V) : Prop :=
  ∃ i, json.Texts applicationStruct v application.name i ∧ Id i application.id

/-- The file has an array of applications, the first with the name, and one of
these services. There is one at least. -/
structure ConfigFiles.Configures (files : ConfigFiles V) (Id : String → UInt16 → Prop) (doc : V) (name : String)
    (services : List ServiceConfig) : Prop where
  application : ∃ first others id, files.arrayUnder "applications" doc = some (first :: others) ∧
    VsomeipApplicationConfig.WrittenAs files.json Id ⟨name, id⟩ first
  services : ∃ elems, files.arrayUnder "services" doc = some elems ∧ elems ≠ [] ∧
    List.Forall₂ (fun v service => service.WrittenAs files.json Id v) elems services

theorem service_ok_iff (hjson : files.json.Documented) {v : V} {service : ServiceConfig} :
    files.json.fromValue serviceStruct v = .ok (service.service, service.instanceId) ↔
      service.WrittenAs files.json LikeHexId v := by
  rw [hjson.struct]
  simp only [serviceStruct, hexField, deserializeHexU16_ok_iff]
  rfl

theorem application_ok_iff (hjson : files.json.Documented) {v : V} {application : VsomeipApplicationConfig} :
    files.json.fromValue applicationStruct v = .ok (application.name, application.id) ↔
      application.WrittenAs files.json LikeHexId v := by
  rw [hjson.struct]
  constructor
  · intro h
    obtain ⟨name, i, ht, hname, hid⟩ := h
    obtain rfl : name = application.name := Except.ok.inj hname
    exact ⟨i, ht, deserializeHexU16_ok_iff.1 hid⟩
  · intro h
    obtain ⟨i, ht, hid⟩ := h
    exact ⟨application.name, i, ht, rfl, deserializeHexU16_ok_iff.2 hid⟩

/-- A list of services is read elementwise. -/
theorem services_ok_iff (hjson : files.json.Documented) {elems : List V} {configs : List (ServiceId × InstanceId)} :
    files.json.fromValues serviceStruct elems = .ok configs ↔
      List.Forall₂ (fun v service => service.WrittenAs files.json LikeHexId v) elems
        (configs.map fun c => (⟨c.1, c.2⟩ : ServiceConfig)) := by
  rw [hjson.vector, List.forall₂_map_right_iff]
  have hone : ∀ v (c : ServiceId × InstanceId), files.json.fromValue serviceStruct v = .ok c ↔
      (⟨c.1, c.2⟩ : ServiceConfig).WrittenAs files.json LikeHexId v :=
    fun v c => @service_ok_iff V files hjson v ⟨c.1, c.2⟩
  simp only [hone]

/-- The services of a file are read if it has an array of them that is not
empty: all of them, in order. -/
theorem extractServices_ok_iff (hjson : files.json.Documented) (services : List ServiceConfig) :
    extractServices files path = .ok services ↔ ∃ doc elems, files.read path = .ok doc ∧
      files.arrayUnder "services" doc = some elems ∧ elems ≠ [] ∧
      List.Forall₂ (fun v service => service.WrittenAs files.json LikeHexId v) elems services := by
  constructor
  · intro h
    unfold extractServices at h
    split at h
    · cases h
    next doc hread =>
    split at h
    · cases h
    · cases h
    next elems hne harr =>
    split at h
    · cases h
    next configs hvec =>
    cases h
    exact ⟨doc, elems, hread, harr, hne, (services_ok_iff hjson).1 hvec⟩
  · intro h
    obtain ⟨doc, elems, hread, harr, hne, hall⟩ := h
    have hpairs : (services.map fun s => (s.service, s.instanceId)).map (fun c => (⟨c.1, c.2⟩ : ServiceConfig)) =
        services := by
      rw [List.map_map]
      exact List.map_id services
    have hvec : files.json.fromValues serviceStruct elems =
        .ok (services.map fun s => (s.service, s.instanceId)) := (services_ok_iff hjson).2 (hpairs.symm ▸ hall)
    unfold extractServices
    simp only [hread, harr]
    cases elems with
    | nil => exact absurd rfl hne
    | cons elem elems =>
      simp only [hvec]
      exact congrArg Except.ok hpairs

/-- Of the applications only the first is read, the others may be anything. -/
theorem extractApplication_ok_iff (hjson : files.json.Documented) (application : VsomeipApplicationConfig) :
    extractApplication files path = .ok application ↔ ∃ doc first others, files.read path = .ok doc ∧
      files.arrayUnder "applications" doc = some (first :: others) ∧
      application.WrittenAs files.json LikeHexId first := by
  constructor
  · intro h
    unfold extractApplication at h
    split at h
    · cases h
    next doc hread =>
    split at h
    · cases h
    · cases h
    next first others harr =>
    split at h
    · cases h
    next name id hfirst =>
    cases h
    exact ⟨doc, first, others, hread, harr, (application_ok_iff hjson).1 hfirst⟩
  · intro h
    obtain ⟨doc, first, others, hread, harr, hfirst⟩ := h
    have happ := (application_ok_iff hjson).2 hfirst
    unfold extractApplication
    simp only [hread, harr, happ]

/-- **From which files a transport is made, and with what.** The file has an
array of applications whose first gives the name, and the services, when they
are asked for, are those of an array that is not empty. -/
theorem newWithConfig_ok_iff (hjson : files.json.Documented) {up : UpRust} {uri : UUri} {transportUri : TransportUri}
    (remoteAuthority : AuthorityName) (name : String) (services : List ServiceConfig) :
    newWithConfig up files uri remoteAuthority path =
        .ok ⟨name, transportUri, remoteAuthority, some (.ok services)⟩ ↔
      TransportUri.check up uri = .ok transportUri ∧
        ∃ doc, files.readJsonFile path = some (.ok doc) ∧ files.Configures LikeHexId doc name services := by
  constructor
  · intro h
    unfold newWithConfig at h
    split at h
    · cases h
    next content hfile =>
    have hcontent : files.read path = content := by simp [ConfigFiles.read, hfile]
    split at h
    · cases h
    next application happ =>
    split at h
    · cases h
    next checked huri =>
    simp only [Except.ok.injEq, TransportConfig.mk.injEq, Option.some.injEq, true_and] at h
    obtain ⟨rfl, rfl, hservices⟩ := h
    obtain ⟨doc, first, others, hread, hfirst⟩ := (extractApplication_ok_iff hjson application).1 happ
    obtain ⟨doc', elems, hread', helems⟩ := (extractServices_ok_iff hjson services).1 hservices
    obtain rfl : doc = doc' := Except.ok.inj (hread.symm.trans hread')
    have hdoc : content = .ok doc := hcontent.symm.trans hread
    exact ⟨huri, doc, hdoc ▸ hfile, ⟨first, others, application.id, hfirst⟩, elems, helems⟩
  · intro h
    obtain ⟨huri, doc, hfile, ⟨first, others, id, hfirst⟩, elems, helems⟩ := h
    have hread : files.read path = .ok doc := by simp [ConfigFiles.read, hfile]
    have happ : extractApplication files path = .ok ⟨name, id⟩ :=
      (extractApplication_ok_iff hjson _).2 ⟨doc, first, others, hread, hfirst⟩
    have hservices : extractServices files path = .ok services :=
      (extractServices_ok_iff hjson services).2 ⟨doc, elems, hread, helems⟩
    simp only [newWithConfig, hfile, happ, huri, hservices]

/-! ## Files without loose ids -/

/-- No text that is read as an id is loose. -/
structure ConfigFiles.Strict (files : ConfigFiles V) (doc : V) : Prop where
  application : ∀ first others, files.arrayUnder "applications" doc = some (first :: others) →
    ∀ name i, files.json.Texts applicationStruct first name i → ¬ LooseId i
  services : ∀ elems, files.arrayUnder "services" doc = some elems → ∀ v ∈ elems, ∀ s i,
    files.json.Texts serviceStruct v s i → ¬ LooseId s ∧ ¬ LooseId i

theorem likeHexId_iff_of_strict {s : String} (h : ¬ LooseId s) (id : UInt16) : LikeHexId s id ↔ HexId s id :=
  deserializeHexU16_ok_iff.symm.trans ((reads_iff s).2 h id)

theorem ConfigFiles.Strict.configures_iff {doc : V} (h : files.Strict doc) {name : String}
    {services : List ServiceConfig} :
    files.Configures LikeHexId doc name services ↔ files.Configures HexId doc name services := by
  have hservice {elems : List V} (harr : files.arrayUnder "services" doc = some elems) {v : V} (hv : v ∈ elems)
      (service : ServiceConfig) :
      service.WrittenAs files.json LikeHexId v ↔ service.WrittenAs files.json HexId v := by
    refine exists_congr fun s => exists_congr fun i => and_congr_right fun ht => ?_
    obtain ⟨hs, hi⟩ := h.services elems harr v hv s i ht
    rw [likeHexId_iff_of_strict hs, likeHexId_iff_of_strict hi]
  have happlication {first : V} {others : List V}
      (harr : files.arrayUnder "applications" doc = some (first :: others)) (application : VsomeipApplicationConfig) :
      application.WrittenAs files.json LikeHexId first ↔ application.WrittenAs files.json HexId first := by
    refine exists_congr fun i => and_congr_right fun ht => ?_
    rw [likeHexId_iff_of_strict (h.application first others harr _ i ht)]
  have hall {elems : List V} (harr : files.arrayUnder "services" doc = some elems) :
      List.Forall₂ (fun v service => service.WrittenAs files.json LikeHexId v) elems services ↔
        List.Forall₂ (fun v service => service.WrittenAs files.json HexId v) elems services := by
    have hmem {R : V → ServiceConfig → Prop} :
        List.Forall₂ (fun v service => v ∈ elems ∧ R v service) elems services ↔ List.Forall₂ R elems services :=
      (List.forall₂_and_left _ _).trans (and_iff_right fun _ hv => hv)
    rw [← hmem, ← @hmem fun v service => service.WrittenAs files.json HexId v]
    exact ⟨.imp fun v service hv => ⟨hv.1, (hservice harr hv.1 service).1 hv.2⟩,
      .imp fun v service hv => ⟨hv.1, (hservice harr hv.1 service).2 hv.2⟩⟩
  constructor
  · intro hconf
    obtain ⟨⟨first, others, id, harr, hfirst⟩, elems, harr', hne, helems⟩ := hconf
    exact ⟨⟨first, others, id, harr, (happlication harr _).1 hfirst⟩, elems, harr', hne, (hall harr').1 helems⟩
  · intro hconf
    obtain ⟨⟨first, others, id, harr, hfirst⟩, elems, harr', hne, helems⟩ := hconf
    exact ⟨⟨first, others, id, harr, (happlication harr _).2 hfirst⟩, elems, harr', hne, (hall harr').2 helems⟩

/-- **A file without loose ids is read as vsomeip documents it**, whatever else
is in it. -/
theorem newWithConfig_strict_iff (hjson : files.json.Documented) {up : UpRust} {uri : UUri}
    {transportUri : TransportUri} (remoteAuthority : AuthorityName) {doc : V}
    (hfile : files.readJsonFile path = some (.ok doc)) (hstrict : files.Strict doc) (name : String)
    (services : List ServiceConfig) :
    newWithConfig up files uri remoteAuthority path =
        .ok ⟨name, transportUri, remoteAuthority, some (.ok services)⟩ ↔
      TransportUri.check up uri = .ok transportUri ∧ files.Configures HexId doc name services := by
  rw [newWithConfig_ok_iff hjson, ← hstrict.configures_iff]
  constructor
  · intro h
    obtain ⟨huri, doc', hfile', hconf⟩ := h
    obtain rfl : doc = doc' := by simpa [hfile] using hfile'
    exact ⟨huri, hconf⟩
  · intro h
    exact ⟨h.1, doc, hfile, h.2⟩

end

/-! ## Two files -/

inductive SampleDocument
  | text (s : String)
  | array (elems : List SampleDocument)
  | object (entries : List (String × SampleDocument))

namespace SampleDocument

def get : SampleDocument → String → Option SampleDocument
  | .object entries, name => entries.lookup name
  | _, _ => none

def asArray : SampleDocument → Option (List SampleDocument)
  | .array elems => some elems
  | _ => none

def asStr : SampleDocument → Option String
  | .text s => some s
  | _ => none

/-- A service on TCP, as in `tcp_service.json`. -/
def tcpService (service : String) : SampleDocument :=
  .object [("unicast", .text "127.0.0.1"),
    ("applications", .array [.object [("name", .text "4660"), ("id", .text "0x1234")]]),
    ("services", .array [.object [("service", .text service), ("instance", .text "0x0001"),
      ("reliable", .text "30509")]])]

def files : ConfigFiles SampleDocument where
  json := SerdeJson.reading get asArray asStr
  readJsonFile path :=
    if path = "tcp_service.json" then some (.ok (tcpService "0x1234"))
    else if path = "loose.json" then some (.ok (tcpService "1234"))
    else none
  debugPath path := path

theorem files_documented : files.json.Documented := SerdeJson.reading_documented get asArray asStr

theorem tcpService_texts {service s i : String} : files.json.Texts serviceStruct
    (.object [("service", .text service), ("instance", .text "0x0001"), ("reliable", .text "30509")]) s i ↔
      s = service ∧ i = "0x0001" := by
  constructor
  · intro ht
    exact ht.unique ⟨rfl, rfl⟩
  · rintro ⟨rfl, rfl⟩
    exact ⟨rfl, rfl⟩

theorem tcpService_configures {Id : String → UInt16 → Prop} {service : String} (hid : Id "0x1234" 0x1234)
    (hservice : Id service 0x1234) (hinstance : Id "0x0001" 1) :
    files.Configures Id (tcpService service) "4660" [⟨0x1234, 1⟩] where
  application := ⟨_, [], 0x1234, rfl, "0x1234", ⟨rfl, rfl⟩, hid⟩
  services := ⟨_, rfl, by simp, by
    simpa [ServiceConfig.WrittenAs, tcpService_texts] using ⟨hservice, hinstance⟩⟩

theorem hexId_service : HexId "0x1234" 0x1234 :=
  ⟨"1234".toList, by decide, by decide, [1, 2, 3, 4], by decide, by decide⟩

theorem hexId_instance : HexId "0x0001" 1 :=
  ⟨"0001".toList, by decide, by decide, [0, 0, 0, 1], by decide, by decide⟩

theorem tcpService_strict : files.Strict (tcpService "0x1234") where
  application first others harr name i ht := by
    cases harr
    obtain ⟨-, rfl⟩ := ht.unique (⟨rfl, rfl⟩ : files.json.Texts applicationStruct _ "4660" "0x1234")
    exact hexId_service.not_loose
  services elems harr v hv s i ht := by
    cases harr
    obtain rfl := List.mem_singleton.1 hv
    obtain ⟨rfl, rfl⟩ := tcpService_texts.1 ht
    exact ⟨hexId_service.not_loose, hexId_instance.not_loose⟩

end SampleDocument

open SampleDocument in
theorem newWithConfig_ok_iff_sample : newWithConfig .accepting files ⟨"me", 1, 1, 0⟩ "remote" "loose.json" =
    .ok ⟨"4660", ⟨⟨"me", 1, 1, 0⟩, by decide⟩, "remote", some (.ok [⟨0x1234, 1⟩])⟩ := by
  have hlike {s : String} {id : UInt16} (h : HexId s id) : LikeHexId s id := ⟨1, false, hexId_iff.1 h⟩
  have hloose : LikeHexId "1234" 0x1234 :=
    ⟨0, false, "1234".toList, by decide, by decide, [1, 2, 3, 4], by decide, by decide⟩
  exact (newWithConfig_ok_iff files_documented "remote" "4660" _).2
    ⟨rfl, tcpService "1234", rfl, tcpService_configures (hlike hexId_service) hloose (hlike hexId_instance)⟩

open SampleDocument in
theorem newWithConfig_strict_iff_sample :
    newWithConfig .accepting files ⟨"me", 1, 1, 0⟩ "remote" "tcp_service.json" =
      .ok ⟨"4660", ⟨⟨"me", 1, 1, 0⟩, by decide⟩, "remote", some (.ok [⟨0x1234, 1⟩])⟩ :=
  (newWithConfig_strict_iff files_documented "remote" rfl tcpService_strict "4660" _).2
    ⟨rfl, tcpService_configures hexId_service hexId_service hexId_instance⟩

end VsomeipTransport
