/-!
# Fee sides

A gauge's pool collects fees in two tokens, called side a and side b.  A pair of
values, one for each side, is a `PerSide`.
-/

namespace EpochVoting

/-- One of the two tokens that a pool collects fees in. -/
inductive FeeSide where
  | a
  | b
deriving DecidableEq

namespace FeeSide

/-- Both sides, in order. -/
def all : List FeeSide := [a, b]

/-- The position of a side in a pair. -/
def index : FeeSide → Nat
  | a => 0
  | b => 1

/-- The written form of a side. -/
def text : FeeSide → String
  | a => "a"
  | b => "b"

instance : ToString FeeSide := ⟨text⟩

/-- The side with exactly the given written form. -/
def ofText? : String → Option FeeSide
  | "a" => some a
  | "b" => some b
  | _ => none

/-- The side a text names, in either case. -/
def parse? (text : String) : Option FeeSide :=
  ofText? text.toLower

end FeeSide

/-- A value for each side. -/
structure PerSide (α : Type) where
  a : α
  b : α
deriving DecidableEq

namespace PerSide

variable {α β : Type}

/-- The value of a side. -/
def get (p : PerSide α) : FeeSide → α
  | .a => p.a
  | .b => p.b

/-- The pair with the value of one side replaced. -/
def set (p : PerSide α) (side : FeeSide) (x : α) : PerSide α :=
  match side with
  | .a => { p with a := x }
  | .b => { p with b := x }

/-- The pair of a function's values. -/
def ofFn (f : FeeSide → α) : PerSide α :=
  ⟨f .a, f .b⟩

/-- The same value on both sides. -/
def both (x : α) : PerSide α :=
  ⟨x, x⟩

/-- The pair of a function's values at the values of a pair. -/
def map (f : α → β) (p : PerSide α) : PerSide β :=
  ⟨f p.a, f p.b⟩

/-- The values in the order of the sides. -/
def toList (p : PerSide α) : List α :=
  [p.a, p.b]

/-- The pair of results of a computation for side a and then one for side b; the
first failure ends it. -/
def tryFn {ε : Type} (f : FeeSide → Except ε α) : Except ε (PerSide α) := do
  let a ← f .a
  let b ← f .b
  return ⟨a, b⟩

@[simp] theorem get_ofFn (f : FeeSide → α) (side : FeeSide) : (ofFn f).get side = f side := by
  cases side <;> rfl

@[simp] theorem get_map (f : α → β) (p : PerSide α) (side : FeeSide) :
    (p.map f).get side = f (p.get side) := by
  cases side <;> rfl

@[simp] theorem get_both (x : α) (side : FeeSide) : (both x).get side = x := by
  cases side <;> rfl

@[simp] theorem get_set_self (p : PerSide α) (side : FeeSide) (x : α) :
    (p.set side x).get side = x := by
  cases side <;> rfl

theorem get_set_of_ne (p : PerSide α) {s t : FeeSide} (x : α) (h : s ≠ t) :
    (p.set s x).get t = p.get t := by
  cases s <;> cases t <;> simp_all [get, set]

theorem ext_get {p q : PerSide α} (h : ∀ side, p.get side = q.get side) : p = q := by
  obtain ⟨_, _⟩ := p
  obtain ⟨_, _⟩ := q
  have ha := h .a
  have hb := h .b
  simp only [get] at ha hb
  rw [ha, hb]

theorem tryFn_eq_ok_iff {ε : Type} {f : FeeSide → Except ε α} {p : PerSide α} :
    tryFn f = .ok p ↔ ∀ side, f side = .ok (p.get side) := by
  constructor
  · intro h side
    unfold tryFn at h
    cases ha : f .a with
    | error e => simp [ha, bind, Except.bind] at h
    | ok x =>
      cases hb : f .b with
      | error e => simp [ha, hb, bind, Except.bind] at h
      | ok y =>
        simp only [ha, hb, bind, Except.bind, pure, Except.pure, Except.ok.injEq] at h
        subst h
        cases side <;> assumption
  · intro h
    unfold tryFn
    simp only [h .a, h .b, get, bind, Except.bind, pure, Except.pure]

end PerSide
end EpochVoting
