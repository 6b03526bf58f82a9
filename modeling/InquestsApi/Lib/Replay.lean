import Mathlib.Data.List.Basic

/-! States that a log of events is played over, where each event has to fit the state that it meets. -/
namespace Replay

variable {σ ε : Type}

/-- The events lead from one state to the other, and each fits the state that it meets. -/
inductive Replays (update : σ → ε → σ) (fits : σ → ε → Prop) : σ → List ε → σ → Prop
  | nil (a : σ) : Replays update fits a [] a
  | cons {a b : σ} {event : ε} {events : List ε} (hfits : fits a event)
      (hrest : Replays update fits (update a event) events b) : Replays update fits a (event :: events) b

variable {update : σ → ε → σ} {fits : σ → ε → Prop} {a b c : σ} {event : ε} {events later : List ε}

theorem Replays.append (h : Replays update fits a events b) (hlater : Replays update fits b later c) :
    Replays update fits a (events ++ later) c := by
  induction h with
  | nil => exact hlater
  | cons hfits _ ih => exact .cons hfits (ih hlater)

theorem Replays.single (hfits : fits a event) (hupdate : update a event = b) :
    Replays update fits a [event] b := by
  refine .cons hfits ?_
  rw [hupdate]
  exact .nil b

/-- Events that fit the state and leave it alone can be skipped. -/
theorem Replays.of_ignored (h : ∀ event ∈ events, fits a event ∧ update a event = a) :
    Replays update fits a events a := by
  induction events with
  | nil => exact .nil a
  | cons event events ih =>
      obtain ⟨⟨hfits, hupdate⟩, hrest⟩ := List.forall_mem_cons.mp h
      refine .cons hfits ?_
      rw [hupdate]
      exact ih hrest

/-- The part of a log that is about one object, after the log has grown. -/
theorem Replays.grow {about : ε → Bool} {log rows : List ε}
    (h : Replays update fits a (log.filter about) b) (hrows : Replays update fits b (rows.filter about) c) :
    Replays update fits a ((log ++ rows).filter about) c := by
  rw [List.filter_append]
  exact h.append hrows

end Replay
