import Mathlib.Tactic.Common

/-!
# Sessions

An endpoint has one session at a time. A log says when sessions open and close
and which one is used, and it is orderly when no session opens beside another
and only the open one is used.
-/

namespace Support.Sessions

inductive Item (κ : Type)
  | opened (session : κ)
  | closed
  | used (session : κ)
  deriving DecidableEq

section
variable {κ : Type} [DecidableEq κ]

/-- The session behind an item; `none` outside where the item has no place. -/
def Item.after : Option κ → Item κ → Option (Option κ)
  | none, opened session => some (some session)
  | some _, closed => some none
  | some session, used session' => if session' = session then some (some session) else none
  | _, _ => none

/-- The session behind a whole log, `none` outside where it is not orderly. -/
def after (session : Option κ) (log : List (Item κ)) : Option (Option κ) :=
  log.foldlM Item.after session

@[simp] theorem after_used_cons (session : κ) (log : List (Item κ)) :
    after (some session) (.used session :: log) = after (some session) log := by
  rw [after, List.foldlM_cons, Item.after, if_pos rfl]
  rfl

theorem after_append (session : Option κ) (log more : List (Item κ)) :
    after session (log ++ more) = (after session log).bind (after · more) :=
  List.foldlM_append

/-- Uses of the open session change nothing. -/
theorem after_used {session : κ} {sessions : List κ} (h : ∀ s ∈ sessions, s = session) :
    after (some session) (sessions.map Item.used) = some (some session) := by
  induction sessions with
  | nil => rfl
  | cons s sessions ih =>
    obtain ⟨rfl, hrest⟩ := List.forall_mem_cons.mp h
    rw [List.map_cons, after_used_cons]
    exact ih hrest

/-- Uses of a session that may not be there. -/
theorem after_used_of_open {session : Option κ} {sessions : List κ}
    (h : ∀ s ∈ sessions, session = some s) :
    after session (sessions.map Item.used) = some session := by
  cases session with
  | none =>
    cases sessions with
    | nil => rfl
    | cons s sessions => cases h s List.mem_cons_self
  | some session => exact after_used fun s hs => (Option.some.inj (h s hs)).symm

end

end Support.Sessions
