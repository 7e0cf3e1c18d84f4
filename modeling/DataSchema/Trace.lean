import DataSchema.Pointer

set_option autoImplicit false

/-!
# Traces

What the library reports while it works. A traced computation is its outcome together with the
events on the way; the events of a computation that fails are kept.

## Main definitions

* `DataSchema.Event` — something that is reported.
* `DataSchema.Traced` — an outcome with the events on the way to it.

## Main results

* `DataSchema.Traced.outcome_bind` — the outcome of a sequence does not depend on events.
-/

namespace DataSchema

/-- Something that is reported while the library works. -/
inductive Event
  /-- A discriminator has selected a named schema. -/
  | dispatched (property : String) (tag : Value) (location : Path) (target : String)
  /-- An alternative has been chosen. -/
  | matched (keyword : String) (location : Path) (index : Nat)
  /-- A schema has keywords that are not supported. -/
  | unsupported (keys : List Value) (location : String)
  /-- A document is being read. -/
  | loading (document : String)
  /-- A document is taken from the cache. -/
  | loadingFromCache (document : String)
  /-- The schemas of a document have been read. -/
  | loaded (count : Nat) (document : String)

/-- What is said of unsupported keywords. -/
def unsupportedMessage (keys : List Value) (location : String) : String :=
  "Unsupported schema keyword(s) " ++ (Value.list keys).literal ++ " at " ++ location

/-- An event in words. -/
def Event.message : Event → String
  | dispatched property tag location target =>
    "Discriminator " ++ property ++ "=" ++ tag.literal ++ " at " ++ location.pointer ++
      " dispatches to " ++ target
  | matched keyword location index =>
    keyword ++ " at " ++ location.pointer ++ " matched candidate " ++ toString index
  | unsupported keys location => unsupportedMessage keys location
  | loading document => "Loading schema document: " ++ document
  | loadingFromCache document => "Loading schema document from cache: " ++ document
  | loaded count document => "Loaded " ++ toString count ++ " schema(s) from " ++ document

/-- An outcome with the events on the way to it. -/
structure Traced (ε α : Type) where
  /-- The events, in order. -/
  events : List Event
  /-- What came out. -/
  outcome : Except ε α

namespace Traced

variable {ε α β : Type}

/-- A result without events. -/
def result (a : α) : Traced ε α := ⟨[], .ok a⟩

/-- An outcome without events. -/
def ofExcept (x : Except ε α) : Traced ε α := ⟨[], x⟩

/-- A failure without events. -/
def fail (e : ε) : Traced ε α := ⟨[], .error e⟩

/-- One event. -/
def emit (e : Event) : Traced ε Unit := ⟨[e], .ok ()⟩

/-- One computation after another; the second is left out if the first fails. -/
def andThen (x : Traced ε α) (f : α → Traced ε β) : Traced ε β :=
  match x.outcome with
  | .ok a => ⟨x.events ++ (f a).events, (f a).outcome⟩
  | .error e => ⟨x.events, .error e⟩

instance : Monad (Traced ε) where
  pure := result
  bind := andThen

/-- A computation with its failures changed. -/
def mapError {δ : Type} (f : ε → δ) (x : Traced ε α) : Traced δ α :=
  ⟨x.events, x.outcome.mapError f⟩

/-! ## Outcomes -/

@[simp] theorem outcome_pure (a : α) : (pure a : Traced ε α).outcome = .ok a := rfl

@[simp] theorem outcome_ofExcept (x : Except ε α) : (ofExcept x).outcome = x := rfl

@[simp] theorem outcome_fail (e : ε) : (fail e : Traced ε α).outcome = .error e := rfl

@[simp] theorem outcome_emit (e : Event) : (emit e : Traced ε Unit).outcome = .ok () := rfl

/-- The outcome of a sequence is the sequence of outcomes. -/
@[simp] theorem outcome_bind (x : Traced ε α) (f : α → Traced ε β) :
    (x >>= f).outcome = x.outcome >>= fun a => (f a).outcome := by
  obtain ⟨es, o⟩ := x
  cases o <;> rfl

end Traced

end DataSchema
