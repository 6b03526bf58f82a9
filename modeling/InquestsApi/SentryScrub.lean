import InquestsApi.SentryEvents

/-! What a scrubbed event is made from: nothing of a sensitive exception's own text, nothing of the
log's extra but the allowed keys, and the safe message of the exception at the same place of the
chain. -/
namespace InquestsApi
namespace Sentry

/-- The log's own extra, which stands under a key of that name. -/
def logExtra (extra : String → Option Value) : String → Option Value :=
  match extra "extra" with
  | some (.dict items) => items
  | _ => fun _ => none

/-- Extras that differ at most in keys outside the allow-list. -/
def ExtraAlike (x y : String → Option Value) : Prop :=
  ∀ key ∈ safeLogExtraKeys, logExtra x key = logExtra y key

/-- Entries that differ at most in the value of a sensitive exception. -/
structure EntryAlike (x y : ExceptionEntry) : Prop where
  module : x.module = y.module
  type : x.type = y.type
  value : isSensitiveException x = true ∨ x.value = y.value
  rest : x.rest = y.rest

structure InterfaceAlike (x y : ExceptionInterface) : Prop where
  values : Option.Rel (List.Forall₂ EntryAlike) x.values y.values
  rest : x.rest = y.rest

structure EventsAlike (x y : Event) : Prop where
  extra : Option.Rel ExtraAlike x.extra y.extra
  exception : Option.Rel InterfaceAlike x.exception y.exception
  rest : x.rest = y.rest

section Alike

variable {E : Type} {exceptions : Exceptions E} {chain : List E}

theorem scrubExtra_apply (extra : String → Option Value) (key : String) :
    scrubExtra extra key = if key ∈ safeLogExtraKeys then logExtra extra key else none := by
  unfold scrubExtra logExtra
  cases extra "extra" with
  | none => rw [ite_self]
  | some value => cases value <;> simp only [ite_self]

theorem scrubExtra_alike {x y : String → Option Value} (h : ExtraAlike x y) :
    scrubExtra x = scrubExtra y := by
  funext key
  rw [scrubExtra_apply, scrubExtra_apply]
  by_cases hkey : key ∈ safeLogExtraKeys
  · rw [if_pos hkey, if_pos hkey, h key hkey]
  · rw [if_neg hkey, if_neg hkey]

theorem isSensitiveException_alike {x y : ExceptionEntry} (h : EntryAlike x y) :
    isSensitiveException x = isSensitiveException y := by
  unfold isSensitiveException
  rw [h.module, h.type]

theorem scrubException_alike {x y : ExceptionEntry} (h : EntryAlike x y) (index : ℕ) :
    scrubException exceptions chain index x = scrubException exceptions chain index y := by
  have hsame := isSensitiveException_alike h
  unfold scrubException
  by_cases hsensitive : isSensitiveException x = true
  · rw [if_pos hsensitive, if_pos (hsame.symm.trans hsensitive)]
    exact ExceptionEntry.ext h.module h.type rfl h.rest
  · rw [if_neg hsensitive, if_neg fun hy => hsensitive (hsame.trans hy)]
    exact ExceptionEntry.ext h.module h.type (h.value.resolve_left hsensitive) h.rest

theorem mapIdx_alike {β : Type} {f : ℕ → ExceptionEntry → β} {xs ys : List ExceptionEntry}
    (hf : ∀ index x y, EntryAlike x y → f index x = f index y) (h : List.Forall₂ EntryAlike xs ys) :
    xs.mapIdx f = ys.mapIdx f := by
  induction h generalizing f with
  | nil => rfl
  | cons hhead _ ih =>
      rw [List.mapIdx_cons, List.mapIdx_cons, hf 0 _ _ hhead, ih fun index x y => hf (index + 1) x y]

theorem map_rel {α β : Type} {r : α → α → Prop} (f : α → β) (hf : ∀ x y, r x y → f x = f y)
    {x y : Option α} (h : Option.Rel r x y) : x.map f = y.map f := by
  cases h with
  | none => rfl
  | some hxy => exact congrArg some (hf _ _ hxy)

/-- Events that are alike are sent alike. -/
theorem scrubbed_alike {x y : Event} (h : EventsAlike x y) :
    scrubbed exceptions chain x = scrubbed exceptions chain y := by
  have hvalues : ∀ v w, List.Forall₂ EntryAlike v w →
      v.mapIdx (scrubException exceptions chain) = w.mapIdx (scrubException exceptions chain) :=
    fun _ _ hentries => mapIdx_alike (fun index _ _ hentry => scrubException_alike hentry index) hentries
  apply Event.ext
  · exact map_rel scrubExtra (fun _ _ => scrubExtra_alike) h.extra
  · refine map_rel _ (fun interface interface' hinterface => ?_) h.exception
    apply ExceptionInterface.ext
    · exact map_rel _ hvalues hinterface.values
    · exact hinterface.rest
  · exact h.rest

end Alike

/-- The entry of an exception: its class is told by the module and the type. -/
structure Exceptions.Describes {E : Type} (exceptions : Exceptions E) (entry : ExceptionEntry)
    (exception : E) : Prop where
  module : entry.module = exceptions.module exception
  type : entry.type = exceptions.type exception

/-- An entry as it is sent: a sensitive one with what the exception itself has as safe message. -/
def Exceptions.sent {E : Type} (exceptions : Exceptions E) (entry : ExceptionEntry) (exception : E) :
    ExceptionEntry :=
  if isSensitiveException entry then
    { entry with value := some (.text (shownMessage exceptions (some exception))) }
  else entry

section Aligned

variable {E : Type} {exceptions : Exceptions E}

/-- Taken by index, every entry meets the exception that it is listed for. -/
theorem mapIdx_scrubException {values : List ExceptionEntry} {chain : List E}
    (h : List.Forall₂ exceptions.Describes values chain) :
    values.mapIdx (scrubException exceptions chain) = List.zipWith exceptions.sent values chain := by
  have hall : ∀ f : ℕ → ExceptionEntry → ExceptionEntry,
      (∀ index entry, f index entry = scrubException exceptions chain index entry) →
      values.mapIdx f = List.zipWith exceptions.sent values chain := by
    induction h with
    | nil => exact fun _ _ => rfl
    | @cons entry exception values chain _ _ ih =>
        intro f hf
        rw [List.mapIdx_cons, List.zipWith_cons_cons, hf 0 entry]
        congr 1
        exact ih _ fun index entry' => hf (index + 1) entry'
  exact hall _ fun _ _ => rfl

/-- **What is sent.** Events that are alike but for the texts of sensitive exceptions and the extra
outside the allow-list are sent as equals; and of the events that list a chain of exceptions from the
oldest to the newest, each sensitive entry is sent with the safe message of its own exception. -/
theorem scrubEvent_confidential (exceptions : Exceptions E) :
    (∀ fuel excInfo x y, EventsAlike x y →
        scrubEvent exceptions fuel x excInfo = scrubEvent exceptions fuel y excInfo)
      ∧ ∀ newest path, Walk.Path exceptions.next newest path →
        ∀ (event : Event) (interface : ExceptionInterface) (values : List ExceptionEntry),
          event.exception = some interface → interface.values = some values →
          List.Forall₂ exceptions.Describes values path.reverse →
          ∀ fuel, path.length ≤ fuel → scrubEvent exceptions fuel event (some (some newest))
            = some { event with
                extra := event.extra.map scrubExtra
                exception := some { interface with
                  values := some (List.zipWith exceptions.sent values path.reverse) } } := by
  constructor
  · intro fuel excInfo x y h
    unfold scrubEvent
    congr 1
    funext chain
    exact scrubbed_alike h
  · intro newest path hpath event interface values hexception hvalues hlisted fuel hfuel
    unfold scrubEvent scrubbed
    rw [realChain_some, exceptionChain_of_path hpath hfuel, Option.map_some, hexception, Option.map_some,
      hvalues, Option.map_some, mapIdx_scrubException hlisted]

end Aligned

def Sample.entry (text : String) : ExceptionEntry :=
  ⟨some "app.use_cases.exceptions", some "SDSLetterRetrievalError", some (.text text), fun _ => none⟩

/-- The event of the error that was raised from another, with the text of the older one. -/
def Sample.event (text : String) : Event :=
  ⟨none, some ⟨some [Sample.entry text, Sample.entry "Failed for passport.pdf"], fun _ => none⟩,
    fun _ => none⟩

theorem Sample.event_alike (text text' : String) :
    EventsAlike (Sample.event text) (Sample.event text') := by
  have hsensitive : ∀ text, isSensitiveException (Sample.entry text) = true := by
    intro text
    have hmodule : startsWithAny "app.use_cases.exceptions" sensitiveExceptionModules = false := by
      decide +kernel
    have htype : startsWithAny "SDSLetterRetrievalError" fileExceptionPrefixes = true := by decide +kernel
    simp [isSensitiveException, Sample.entry, fileExceptionModule, hmodule, htype]
  refine ⟨.none, .some ⟨.some (.cons ?_ (.cons ?_ .nil)), rfl⟩, rfl⟩
  · exact ⟨rfl, rfl, Or.inl (hsensitive text), rfl⟩
  · exact ⟨rfl, rfl, Or.inr rfl, rfl⟩

/-- Whatever the older error said, the same is sent, and the older entry says nothing. -/
theorem scrubEvent_confidential_raised :
    scrubEvent Sample.raised 2 (Sample.event "Jane_Doe_passport.pdf was refused") (some (some true))
        = scrubEvent Sample.raised 2 (Sample.event "SDS returned 500") (some (some true))
      ∧ ∃ sent,
        scrubEvent Sample.raised 2 (Sample.event "SDS returned 500") (some (some true)) = some sent := by
  have hpath : Walk.Path Sample.raised.next true [true, false] := .link rfl (.last rfl)
  have hall := scrubEvent_confidential Sample.raised
  refine ⟨hall.1 2 _ _ _ (Sample.event_alike _ _), _, hall.2 true [true, false] hpath
    (Sample.event "SDS returned 500") _ _ rfl rfl ?_ 2 le_rfl⟩
  exact .cons ⟨rfl, rfl⟩ (.cons ⟨rfl, rfl⟩ .nil)

end Sentry
end InquestsApi
