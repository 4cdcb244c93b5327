/-
A worker that takes commands from its mailbox, one at a time, while others go
on sending.

Who sends a command does not know when it is taken, nor what is taken before
it. `worked_through`: at every moment the worker is where the commands it took
lead to, in the order they were sent, and the others are still in the mailbox.
`pace_irrelevant`: so once the mailbox is empty, only what was sent counts, and
not when. What else happens to the state is in the log at the place where it
happened.
-/
import Mathlib.Data.List.ReduceOption
import VsomeipTransport.Lib.Runs

namespace Mailbox

variable {S C E : Type}

/-- What a command does, and whether the worker survives it; and what happens
to the state besides. -/
structure Program (S C E : Type) where
  process : S → C → Bool × S
  change : S → E → S

structure Worker (S C : Type) where
  state : S
  running : Bool
  mailbox : List C

inductive Event (C E : Type)
  | send (cmd : C)
  | take
  | change (e : E)

/-- Answers with the command that was accepted. A command the worker does not
survive takes the mailbox with it, and nothing is accepted from then on. -/
def step (p : Program S C E) (w : Worker S C) : Event C E → Worker S C × Option C
  | .send cmd => if w.running then ({ w with mailbox := w.mailbox ++ [cmd] }, some cmd) else (w, none)
  | .take =>
    match w.running, w.mailbox with
    | true, cmd :: cmds =>
      match p.process w.state cmd with
      | (true, s) => (⟨s, true, cmds⟩, none)
      | (false, s) => (⟨s, false, []⟩, none)
    | true, [] => (w, none)
    | false, _ => (w, none)
  | .change e => ({ w with state := p.change w.state e }, none)

/-- What was accepted in a run. -/
def sent (p : Program S C E) (w : Worker S C) (es : List (Event C E)) : List C :=
  (Runs.outputs (step p) w es).reduceOption

/-- What happened to the state. -/
inductive Entry (C E : Type)
  | took (cmd : C)
  | changed (e : E)

def Entry.taken : Entry C E → Option C
  | .took cmd => some cmd
  | .changed _ => none

def Entry.change : Entry C E → Option E
  | .took _ => none
  | .changed e => some e

def Event.changes : Event C E → Option E
  | .send _ => none
  | .take => none
  | .change e => some e

/-- An entry after another. Nothing is taken by a worker that is gone. -/
def replay (p : Program S C E) (s : Bool × S) : Entry C E → Bool × S
  | .took cmd => if s.1 then p.process s.2 cmd else s
  | .changed e => (s.1, p.change s.2 e)

variable {p : Program S C E}

theorem sent_takes (p : Program S C E) (w : Worker S C) (n : ℕ) : sent p w (List.replicate n .take) = [] := by
  induction n generalizing w with
  | zero => rfl
  | succ n ih =>
    have hnone : (step p w .take).2 = none := by
      simp only [step]
      split
      · split <;> rfl
      · rfl
      · rfl
    simp only [sent, List.replicate_succ, Runs.outputs_cons, hnone]
    exact ih _

theorem sent_cons (p : Program S C E) (w : Worker S C) (e : Event C E) (es : List (Event C E)) :
    sent p w (e :: es) = (step p w e).2.toList ++ sent p (step p w e).1 es := by
  simp only [sent, Runs.outputs_cons]
  cases (step p w e).2 <;> rfl

theorem sent_append (p : Program S C E) (w : Worker S C) (es fs : List (Event C E)) :
    sent p w (es ++ fs) = sent p w es ++ sent p (Runs.after (step p) w es) fs := by
  simp only [sent, Runs.outputs_append, List.reduceOption_append]

theorem replay_took_stopped (s : S) (cmds : List C) :
    (cmds.map Entry.took).foldl (replay p) (false, s) = (false, s) := by
  induction cmds with
  | nil => rfl
  | cons cmd cmds ih => exact ih

/-- The worker is where the log leads to: what was sent and is not in the log
is in the mailbox, unless the worker is gone. -/
structure WorkedThrough (p : Program S C E) (s₀ : S) (cmds : List C) (changes : List E) (w : Worker S C)
    (log : List (Entry C E)) : Prop where
  state : log.foldl (replay p) (true, s₀) = (w.running, w.state)
  changed : log.filterMap Entry.change = changes
  waiting : w.running = true → cmds = log.filterMap Entry.taken ++ w.mailbox
  stopped : w.running = false → w.mailbox = [] ∧ log.filterMap Entry.taken <+: cmds

variable {s₀ : S} {cmds : List C} {changes : List E} {w : Worker S C} {log : List (Entry C E)}

/-- One event appends an entry to the log, or none. -/
theorem WorkedThrough.step (h : WorkedThrough p s₀ cmds changes w log) (e : Event C E) :
    ∃ log', WorkedThrough p s₀ (cmds ++ (step p w e).2.toList) (changes ++ e.changes.toList) (step p w e).1 log' := by
  obtain ⟨state, running, mailbox⟩ := w
  cases e with
  | send cmd =>
    refine ⟨log, ?_⟩
    simp only [Event.changes, Option.toList_none, List.append_nil]
    cases running with
    | true =>
      refine ⟨h.state, h.changed, fun _ => ?_, fun hr => by cases hr⟩
      simp only [Mailbox.step, if_true, Option.toList_some]
      rw [h.waiting rfl, List.append_assoc]
    | false =>
      simp only [Mailbox.step, Bool.false_eq_true, if_false, Option.toList_none, List.append_nil]
      exact h
  | take =>
    simp only [Event.changes, Option.toList_none, List.append_nil]
    cases running with
    | false =>
      simp only [Mailbox.step, Option.toList_none, List.append_nil]
      exact ⟨log, h⟩
    | true =>
    cases mailbox with
    | nil =>
      simp only [Mailbox.step, Option.toList_none, List.append_nil]
      exact ⟨log, h⟩
    | cons cmd mailbox =>
      refine ⟨log ++ [.took cmd], ?_⟩
      have hstate : log.foldl (replay p) (true, s₀) = (true, state) := h.state
      have hsent : cmds = log.filterMap Entry.taken ++ cmd :: mailbox := h.waiting rfl
      have htaken : (log ++ [Entry.took cmd]).filterMap Entry.taken = log.filterMap Entry.taken ++ [cmd] := by
        rw [List.filterMap_append]
        rfl
      have hchanged : (log ++ [Entry.took cmd]).filterMap Entry.change = changes := by
        rw [List.filterMap_append, h.changed]
        exact List.append_nil _
      have hnext : (log ++ [Entry.took cmd]).foldl (replay p) (true, s₀) = p.process state cmd := by
        rw [List.foldl_append, hstate]
        rfl
      cases hp : p.process state cmd with
      | mk survives s =>
      rw [hp] at hnext
      cases survives with
      | true =>
        simp only [Mailbox.step, hp, Option.toList_none, List.append_nil]
        refine ⟨hnext, hchanged, fun _ => ?_, fun hr => by cases hr⟩
        rw [hsent, htaken, List.append_assoc]
        rfl
      | false =>
        simp only [Mailbox.step, hp, Option.toList_none, List.append_nil]
        refine ⟨hnext, hchanged, fun hr => (by cases hr), fun _ => ⟨rfl, mailbox, ?_⟩⟩
        rw [hsent, htaken, List.append_assoc]
        rfl
  | change e =>
    refine ⟨log ++ [.changed e], ?_⟩
    have htaken : (log ++ [Entry.changed e]).filterMap Entry.taken = log.filterMap Entry.taken := by
      rw [List.filterMap_append]
      exact List.append_nil _
    simp only [Mailbox.step, Option.toList_none, List.append_nil]
    refine ⟨?_, ?_, fun hr => ?_, fun hr => ?_⟩
    · rw [List.foldl_append, h.state]
      rfl
    · rw [List.filterMap_append, h.changed]
      rfl
    · rw [htaken]
      exact h.waiting hr
    · rw [htaken]
      exact h.stopped hr

theorem WorkedThrough.run (h : WorkedThrough p s₀ cmds changes w log) (es : List (Event C E)) :
    ∃ log', WorkedThrough p s₀ (cmds ++ sent p w es) (changes ++ es.filterMap Event.changes)
      (Runs.after (Mailbox.step p) w es) log' := by
  induction es generalizing cmds changes w log with
  | nil => exact ⟨log, by simpa [sent, List.reduceOption] using h⟩
  | cons e es ih =>
    obtain ⟨log₁, h₁⟩ := h.step e
    obtain ⟨log₂, h₂⟩ := ih h₁
    refine ⟨log₂, ?_⟩
    have hchanges : changes ++ (e :: es).filterMap Event.changes =
        changes ++ e.changes.toList ++ es.filterMap Event.changes := by
      rw [List.append_assoc]
      cases e <;> rfl
    have hsent : cmds ++ sent p w (e :: es) =
        cmds ++ (Mailbox.step p w e).2.toList ++ sent p (Mailbox.step p w e).1 es := by
      rw [sent_cons, List.append_assoc]
    rw [hsent, hchanges]
    exact h₂

/-- **The worker has worked through what was sent**, up to what is in its
mailbox, in order and each command once. -/
theorem worked_through (p : Program S C E) (s₀ : S) (es : List (Event C E)) :
    ∃ log, WorkedThrough p s₀ (sent p ⟨s₀, true, []⟩ es) (es.filterMap Event.changes)
      (Runs.after (step p) ⟨s₀, true, []⟩ es) log := by
  have hstart : WorkedThrough p s₀ [] [] ⟨s₀, true, []⟩ ([] : List (Entry C E)) :=
    ⟨rfl, rfl, fun _ => rfl, fun hr => by cases hr⟩
  exact hstart.run es

/-- A log of commands only. -/
theorem eq_took_of_unchanged (hlog : log.filterMap Entry.change = []) :
    log = (log.filterMap Entry.taken).map Entry.took := by
  induction log with
  | nil => rfl
  | cons entry log ih =>
    cases entry with
    | took cmd => exact congrArg (Entry.took cmd :: ·) (ih hlog)
    | changed e => cases hlog

/-- Where nothing else happens, a worker with an empty mailbox is where
everything that was sent leads to. -/
theorem WorkedThrough.caught_up (h : WorkedThrough p s₀ cmds [] w log) (hempty : w.mailbox = []) :
    (w.running, w.state) = (cmds.map Entry.took).foldl (replay p) (true, s₀) := by
  have hstate := h.state
  rw [eq_took_of_unchanged h.changed] at hstate
  cases hr : w.running with
  | true =>
    have hsent := h.waiting hr
    rw [hempty, List.append_nil] at hsent
    rw [hsent, hstate, hr]
  | false =>
    obtain ⟨-, rest, hrest⟩ := h.stopped hr
    rw [← hrest, List.map_append, List.foldl_append, hstate, hr, replay_took_stopped]

/-- **Only what was sent counts, not when it was taken.** -/
theorem pace_irrelevant (p : Program S C E) (s₀ : S) {es es' : List (Event C E)}
    (hsent : sent p ⟨s₀, true, []⟩ es = sent p ⟨s₀, true, []⟩ es') (hes : es.filterMap Event.changes = [])
    (hes' : es'.filterMap Event.changes = []) (hempty : (Runs.after (step p) ⟨s₀, true, []⟩ es).mailbox = [])
    (hempty' : (Runs.after (step p) ⟨s₀, true, []⟩ es').mailbox = []) :
    Runs.after (step p) ⟨s₀, true, []⟩ es = Runs.after (step p) ⟨s₀, true, []⟩ es' := by
  obtain ⟨log, h⟩ := worked_through p s₀ es
  obtain ⟨log', h'⟩ := worked_through p s₀ es'
  rw [hes] at h
  rw [hes', ← hsent] at h'
  obtain ⟨hrunning, hstate⟩ := Prod.mk.inj ((h.caught_up hempty).trans (h'.caught_up hempty').symm)
  generalize Runs.after (step p) ⟨s₀, true, []⟩ es = w at *
  generalize Runs.after (step p) ⟨s₀, true, []⟩ es' = w' at *
  obtain ⟨state, running, mailbox⟩ := w
  obtain ⟨state', running', mailbox'⟩ := w'
  simp only at hrunning hstate hempty hempty'
  rw [hrunning, hstate, hempty, hempty']

/-- Left alone, the worker empties its mailbox. -/
theorem drained (p : Program S C E) (w : Worker S C) {n : ℕ} (hn : w.mailbox.length ≤ n)
    (hstopped : w.running = false → w.mailbox = []) :
    (Runs.after (step p) w (List.replicate n .take)).mailbox = [] := by
  induction n generalizing w with
  | zero =>
    have hlen : w.mailbox.length = 0 := by omega
    exact List.length_eq_zero_iff.1 hlen
  | succ n ih =>
    have hlen : (step p w .take).1.mailbox.length ≤ n := by
      simp only [step]
      split
      · next cmd cmds _ hm =>
        rw [hm, List.length_cons] at hn
        split
        · show cmds.length ≤ n
          omega
        · exact Nat.zero_le n
      · next _ hm => simp [hm]
      · next hr => simp [hstopped hr]
    have hgone : (step p w .take).1.running = false → (step p w .take).1.mailbox = [] := by
      simp only [step]
      split
      · split
        · intro hr
          cases hr
        · exact fun _ => rfl
      · next _ hm => exact fun _ => hm
      · exact hstopped
    exact ih _ hlen hgone

end Mailbox
