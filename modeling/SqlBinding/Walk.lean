import SqlBinding.Event

/-! Walks over a tree: the events they meet, the warnings they give, both in order, and what they find
in the end, unless a malformed name stops them.
-/

namespace SqlBinding

/-- A name without parts, which no SQL text can contain but a tree can. -/
inductive Malformed where
  | emptyObjectName (name : String)
  | emptyColumnRef
deriving DecidableEq, Repr

def Malformed.message : Malformed → String
  | .emptyObjectName name => "Invariant failed: object name has no parts: '" ++ name ++ "'"
  | .emptyColumnRef => "Invariant failed: column reference has no name parts"

structure Walk (α : Type) where
  events : List Event
  warnings : List Warning
  outcome : Except Malformed α

namespace Walk
variable {α β : Type}

protected def pure (value : α) : Walk α := ⟨[], [], .ok value⟩

protected def bind (walk : Walk α) (next : α → Walk β) : Walk β :=
  match walk.outcome with
  | .ok value =>
    ⟨walk.events ++ (next value).events, walk.warnings ++ (next value).warnings,
      (next value).outcome⟩
  | .error cause => ⟨walk.events, walk.warnings, .error cause⟩

instance : Monad Walk where
  pure := Walk.pure
  bind := Walk.bind

def emit (event : Event) : Walk Unit := ⟨[event], [], .ok ()⟩

/-- Adds a warning to the answer without telling of it. -/
def note (warning : Warning) : Walk Unit := ⟨[], [warning], .ok ()⟩

/-- Reports syntax that is not understood, as an event and in the answer, and goes on. -/
def warn (kind : Warning.Kind) (node : String) : Walk Unit := do
  emit (.unsupported ⟨kind, node⟩)
  note ⟨kind, node⟩

def fail (cause : Malformed) : Walk α := ⟨[], [], .error cause⟩

/-- A value that is missing only where a name is malformed. -/
def require (cause : Malformed) : Option α → Walk α
  | some value => pure value
  | none => fail cause

/-- Walks over a list in order and puts together what each step finds. -/
def gather (step : α → Walk (List β)) : List α → Walk (List β)
  | [] => pure []
  | first :: rest => do
    let found ← step first
    let others ← gather step rest
    pure (found ++ others)

end Walk
end SqlBinding
