import Mathlib.Data.List.Forall2
import Mathlib.Data.Option.Basic
import Mathlib.Data.Rat.Defs
import InquestsApi.Lib.Walk

/-! `scrub_event`: what an event keeps before it is sent to Sentry, and the chain of exceptions that
the safe messages are taken from. -/
namespace InquestsApi
namespace Sentry

/-- What may stand in an event; a dict by what it has under each key. -/
inductive Value where
  | null
  | bool (value : Bool)
  | number (value : ℚ)
  | text (value : String)
  | list (items : List Value)
  | dict (items : String → Option Value)

/-- An entry of `event["exception"]["values"]`. -/
@[ext]
structure ExceptionEntry where
  module : Option String
  type : Option String
  value : Option Value
  rest : String → Option Value

@[ext]
structure ExceptionInterface where
  values : Option (List ExceptionEntry)
  rest : String → Option Value

@[ext]
structure Event where
  extra : Option (String → Option Value)
  exception : Option ExceptionInterface
  rest : String → Option Value

/-- The exception objects that an error leads to: their classes, their links and what they have as
`safe_message`. -/
structure Exceptions (E : Type) where
  module : E → Option String
  type : E → Option String
  cause : E → Option E
  context : E → Option E
  suppressContext : E → Bool
  safeMessage : E → Option String

def sensitiveExceptionModules : List String := ["sqlalchemy", "psycopg2", "pydantic", "httpx"]

def fileExceptionModule : String := "app.use_cases.exceptions"

def fileExceptionPrefixes : List String :=
  ["CoronersLetter", "InvalidCoronersLetter", "SDSLetter", "ClaimEvidence", "InvalidClaimEvidence",
    "SDSClaimEvidence"]

/-- `str.startswith` with a tuple. -/
def startsWithAny (text : String) (starts : List String) : Bool :=
  starts.any fun start => start.toList.isPrefixOf text.toList

def isSensitiveException (entry : ExceptionEntry) : Bool :=
  let module := entry.module.getD ""
  if startsWithAny module sensitiveExceptionModules then true
  else module = fileExceptionModule && startsWithAny (entry.type.getD "") fileExceptionPrefixes

def safeLogExtraKeys : List String :=
  ["event", "request_id", "correlation_id", "status_code", "method", "duration_ms", "error_type",
    "exception_type", "route", "laa_reference", "claim_reference", "firm_code", "application_id",
    "claim_evidence_id", "coroners_letter_id", "public_body_id", "provider_id"]

def scrubExtra (extra : String → Option Value) : String → Option Value :=
  match extra "extra" with
  | some (.dict logExtra) => fun key => if key ∈ safeLogExtraKeys then logExtra key else none
  | _ => fun _ => none

section Scrub

variable {E : Type} (exceptions : Exceptions E)

/-- `value.__cause__ or (None if value.__suppress_context__ else value.__context__)`; an exception
object is true. -/
def Exceptions.next (value : E) : Option E :=
  (exceptions.cause value).or
    (if exceptions.suppressContext value then none else exceptions.context value)

/-- The `while` loop; `none` stands for a loop that has not ended by then. -/
def exceptionChainLoop : (fuel : ℕ) → Option E → List E → Option (List E)
  | _, none, chain => some chain
  | 0, some _, _ => none
  | fuel + 1, some value, chain => exceptionChainLoop fuel (exceptions.next value) (chain ++ [value])

def exceptionChain (fuel : ℕ) (value : Option E) : Option (List E) :=
  (exceptionChainLoop exceptions fuel value []).map List.reverse

/-- `getattr(source, "safe_message", None) or "[Filtered]"`. -/
def shownMessage (source : Option E) : String :=
  match source.bind exceptions.safeMessage with
  | none => "[Filtered]"
  | some message => if message = "" then "[Filtered]" else message

def scrubException (realChain : List E) (index : ℕ) (entry : ExceptionEntry) : ExceptionEntry :=
  if isSensitiveException entry then
    { entry with value := some (.text (shownMessage exceptions realChain[index]?)) }
  else entry

/-- The event with its extra and its exceptions scrubbed, by the chain of exceptions. -/
def scrubbed (realChain : List E) (event : Event) : Event :=
  { event with
    extra := event.extra.map scrubExtra
    exception := event.exception.map fun interface => { interface with
      values := interface.values.map (List.mapIdx (scrubException exceptions realChain)) } }

/-- `_exception_chain(exc_info[1]) if exc_info else []`. -/
def realChain (fuel : ℕ) : Option (Option E) → Option (List E)
  | some value => exceptionChain exceptions fuel value
  | none => some []

/-- Of the hint, what it has as `exc_info` counts. -/
def scrubEvent (fuel : ℕ) (event : Event) (excInfo : Option (Option E)) : Option Event :=
  (realChain exceptions fuel excInfo).map fun chain => scrubbed exceptions chain event

end Scrub

/-! ### The chain -/

section Chain

variable {E : Type} {exceptions : Exceptions E} {value : E} {fuel : ℕ} {chain path result : List E}

theorem exceptionChainLoop_none : exceptionChainLoop exceptions fuel none chain = some chain := by
  cases fuel <;> rfl

/-- A way that ends is gone through, given fuel for each exception on it. -/
theorem exceptionChainLoop_of_path (h : Walk.Path exceptions.next value path)
    (hfuel : path.length ≤ fuel) :
    exceptionChainLoop exceptions fuel (some value) chain = some (chain ++ path) := by
  induction h generalizing fuel chain with
  | @last value hend =>
      cases fuel with
      | zero => cases hfuel
      | succ fuel =>
          unfold exceptionChainLoop
          rw [hend, exceptionChainLoop_none]
  | @link value older path hnext _ ih =>
      cases fuel with
      | zero => cases hfuel
      | succ fuel =>
          have hrest : path.length ≤ fuel := Nat.le_of_succ_le_succ hfuel
          unfold exceptionChainLoop
          rw [hnext, ih hrest, List.append_assoc, List.singleton_append]

/-- What the loop ends with is what it had before and a way to its end. -/
theorem path_of_exceptionChainLoop
    (h : exceptionChainLoop exceptions fuel (some value) chain = some result) :
    ∃ path, Walk.Path exceptions.next value path ∧ result = chain ++ path := by
  induction fuel generalizing value chain with
  | zero => cases h
  | succ fuel ih =>
      unfold exceptionChainLoop at h
      cases hnext : exceptions.next value with
      | none =>
          rw [hnext, exceptionChainLoop_none] at h
          cases h
          exact ⟨[value], .last hnext, rfl⟩
      | some older =>
          rw [hnext] at h
          obtain ⟨path, hpath, rfl⟩ := ih h
          exact ⟨value :: path, .link hnext hpath, by rw [List.append_assoc, List.singleton_append]⟩

theorem exceptionChain_of_path (h : Walk.Path exceptions.next value path) (hfuel : path.length ≤ fuel) :
    exceptionChain exceptions fuel (some value) = some path.reverse := by
  unfold exceptionChain
  rw [exceptionChainLoop_of_path h hfuel]
  rfl

theorem path_of_exceptionChain (h : exceptionChain exceptions fuel (some value) = some chain) :
    ∃ path, Walk.Path exceptions.next value path ∧ chain = path.reverse := by
  obtain ⟨result, hresult, rfl⟩ := Option.map_eq_some_iff.mp h
  obtain ⟨path, hpath, hsame⟩ := path_of_exceptionChainLoop hresult
  rw [List.nil_append] at hsame
  exact ⟨path, hpath, by rw [hsame]⟩

/-- A chain is found at all when the way from the exception ends. -/
theorem exceptionChain_goes :
    (∃ fuel chain, exceptionChain exceptions fuel (some value) = some chain)
      ↔ ∃ path, Walk.Path exceptions.next value path := by
  constructor
  · intro h
    obtain ⟨fuel, chain, hchain⟩ := h
    obtain ⟨path, hpath, _⟩ := path_of_exceptionChain hchain
    exact ⟨path, hpath⟩
  · intro h
    obtain ⟨path, hpath⟩ := h
    exact ⟨path.length, path.reverse, exceptionChain_of_path hpath le_rfl⟩

theorem nodup_of_exceptionChain (h : exceptionChain exceptions fuel (some value) = some chain) :
    chain.Nodup := by
  obtain ⟨path, hpath, rfl⟩ := path_of_exceptionChain h
  exact List.nodup_reverse.mpr hpath.nodup

theorem realChain_some :
    realChain exceptions fuel (some (some value)) = exceptionChain exceptions fuel (some value) := rfl

/-- **Termination.** Among any finite set of exception objects, the chain from an exception is found,
and then without repetition, just when no exception on the way leads back to itself; and an event with
that exception in its hint is scrubbed in the same case. -/
theorem exceptionChain_terminates_iff [Finite E] (exceptions : Exceptions E) (start : E) :
    ((∃ fuel chain, exceptionChain exceptions fuel (some start) = some chain ∧ chain.Nodup)
        ↔ ¬ Walk.Cyclic exceptions.next start)
      ∧ ((∃ fuel chain, exceptionChain exceptions fuel (some start) = some chain)
        ↔ ¬ Walk.Cyclic exceptions.next start)
      ∧ ∀ event, (∃ fuel sent, scrubEvent exceptions fuel event (some (some start)) = some sent)
        ↔ ¬ Walk.Cyclic exceptions.next start := by
  have hgoes : (∃ fuel chain, exceptionChain exceptions fuel (some start) = some chain)
      ↔ ¬ Walk.Cyclic exceptions.next start := exceptionChain_goes.trans Walk.exists_path_iff
  refine ⟨?_, hgoes, fun event => ?_⟩
  · rw [← hgoes]
    constructor
    · rintro ⟨fuel, chain, hchain, -⟩
      exact ⟨fuel, chain, hchain⟩
    · rintro ⟨fuel, chain, hchain⟩
      exact ⟨fuel, chain, hchain, nodup_of_exceptionChain hchain⟩
  · rw [← hgoes]
    constructor
    · rintro ⟨fuel, sent, hsent⟩
      obtain ⟨chain, hchain, -⟩ := Option.map_eq_some_iff.mp hsent
      exact ⟨fuel, chain, hchain⟩
    · rintro ⟨fuel, chain, hchain⟩
      refine ⟨fuel, scrubbed exceptions chain event, ?_⟩
      unfold scrubEvent
      rw [realChain_some, hchain]
      rfl

/-- Two exceptions, the second raised from the first. -/
def Sample.raised : Exceptions Bool where
  module _ := some "app.use_cases.exceptions"
  type _ := some "SDSLetterRetrievalError"
  cause newer := if newer then some false else none
  context newer := if newer then some false else none
  suppressContext newer := newer
  safeMessage newer := if newer then some "Failed to retrieve coroners letter" else none

theorem exceptionChain_terminates_iff_raised :
    ∃ fuel chain, exceptionChain Sample.raised fuel (some true) = some chain ∧ chain.Nodup := by
  refine (exceptionChain_terminates_iff Sample.raised true).1.mpr ?_
  have hpath : Walk.Path Sample.raised.next true [true, false] := .link rfl (.last rfl)
  exact hpath.not_cyclic

/-- Two exceptions of which each was raised from the other. -/
def Sample.raisedFromEachOther : Exceptions Bool :=
  { Sample.raised with
    cause := fun exception => some !exception
    suppressContext := fun _ => true }

/-- The loop goes on from either of them for as long as one likes. -/
theorem exceptionChain_endless :
    (¬ ∃ fuel chain, exceptionChain Sample.raisedFromEachOther fuel (some true) = some chain ∧ chain.Nodup)
      ∧ ∀ fuel event, scrubEvent Sample.raisedFromEachOther fuel event (some (some true)) = none := by
  have hloop : ∀ fuel exception chain,
      exceptionChainLoop Sample.raisedFromEachOther fuel (some exception) chain = none := by
    intro fuel
    induction fuel with
    | zero => exact fun _ _ => rfl
    | succ fuel ih => exact fun exception chain => ih (!exception) (chain ++ [exception])
  have hchain : ∀ fuel, exceptionChain Sample.raisedFromEachOther fuel (some true) = none := by
    intro fuel
    unfold exceptionChain
    rw [hloop]
    rfl
  constructor
  · rintro ⟨fuel, chain, hresult, -⟩
    rw [hchain] at hresult
    cases hresult
  intro fuel event
  unfold scrubEvent
  rw [realChain_some, hchain]
  rfl

end Chain

end Sentry
end InquestsApi
