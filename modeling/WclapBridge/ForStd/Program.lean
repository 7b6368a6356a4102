/-!
# Programs over requests

A program either is done or has a request, and goes on from the answer. What a
request does to the world is not part of the program: programs can take turns,
and the world may change between two requests of one program.

## Key results

- `Program.ends_bind`: what a sequence ends with
- `Program.Ends.of_forall`: a property of all results needs no look at the program
- `Program.Ends.answer`: it is carried over each admitted answer
- `Program.AtMost.bind`: how many requests of a kind a sequence makes
- `Program.safe_bind`: which requests a sequence makes
-/

/-- A program with requests of type `ρ`, answers of type `ν` and a result of
    type `α`. -/
inductive Program (ρ ν α : Type) where
  | done (result : α)
  | request (r : ρ) (next : ν → Program ρ ν α)

namespace Program

variable {ρ ν α β : Type}

protected def bind : Program ρ ν α → (α → Program ρ ν β) → Program ρ ν β
  | done a, f => f a
  | request r next, f => request r fun x => (next x).bind f

instance : Monad (Program ρ ν) where
  pure := done
  bind := Program.bind

/-- A single request. -/
def ask (r : ρ) : Program ρ ν ν :=
  request r done

/-- Run a program a number of times. -/
def times : Nat → Program ρ ν Unit → Program ρ ν Unit
  | 0, _ => done ()
  | n + 1, p => p.bind fun _ => times n p

def isDone : Program ρ ν α → Bool
  | done _ => true
  | request _ _ => false

/-- The program ends with a result that has the property, as long as its
    requests are answered the way `Answer` says. -/
def Ends (Answer : ρ → ν → Prop) (Q : α → Prop) : Program ρ ν α → Prop
  | done a => Q a
  | request r next => ∀ x, Answer r x → (next x).Ends Answer Q

variable {Answer : ρ → ν → Prop} {Q : α → Prop} {R : β → Prop}

@[simp] theorem ends_done (a : α) : (done a : Program ρ ν α).Ends Answer Q ↔ Q a :=
  Iff.rfl

@[simp] theorem ends_pure (a : α) : (pure a : Program ρ ν α).Ends Answer Q ↔ Q a :=
  Iff.rfl

@[simp] theorem ends_ask (r : ρ) {Q : ν → Prop} :
    (ask r).Ends Answer Q ↔ ∀ x, Answer r x → Q x :=
  Iff.rfl

/-- A sequence ends with what its second part ends with, from each result of the
    first. -/
@[simp] theorem ends_bind (p : Program ρ ν α) (f : α → Program ρ ν β) :
    (p >>= f).Ends Answer R ↔ p.Ends Answer fun a => (f a).Ends Answer R := by
  induction p with
  | done a => exact Iff.rfl
  | request r next ih => exact forall_congr' fun x => imp_congr_right fun _ => ih x

theorem Ends.of_forall (h : ∀ a, Q a) (p : Program ρ ν α) : p.Ends Answer Q := by
  induction p with
  | done a => exact h a
  | request r next ih => exact fun x _ => ih x

/-- A program without a result of its own ends with whatever holds. -/
@[simp] theorem ends_unit {Q : Unit → Prop} (h : Q ()) (p : Program ρ ν Unit) :
    p.Ends Answer Q :=
  Ends.of_forall (fun _ => h) p

theorem Ends.answer {r : ρ} {next : ν → Program ρ ν α} (h : (request r next).Ends Answer Q)
    {x : ν} (hx : Answer r x) : (next x).Ends Answer Q :=
  h x hx

/-! ## How many requests -/

/-- The program makes at most `n` requests of a kind, however they are answered. -/
def AtMost (kind : ρ → Bool) : Program ρ ν α → Nat → Prop
  | done _, _ => True
  | request r next, n => (kind r).toNat ≤ n ∧ ∀ x, (next x).AtMost kind (n - (kind r).toNat)

variable {kind : ρ → Bool} {m n : Nat}

theorem AtMost.mono {p : Program ρ ν α} (h : p.AtMost kind m) (hmn : m ≤ n) :
    p.AtMost kind n := by
  induction p generalizing m n with
  | done a => exact trivial
  | request r next ih =>
    exact ⟨Nat.le_trans h.1 hmn, fun x => ih x (h.2 x) (Nat.sub_le_sub_right hmn _)⟩

/-- A sequence makes the requests of its parts. -/
theorem AtMost.bind {p : Program ρ ν α} {f : α → Program ρ ν β} (hp : p.AtMost kind m)
    (hf : ∀ a, (f a).AtMost kind n) : (p >>= f).AtMost kind (m + n) := by
  induction p generalizing m with
  | done a => exact (hf a).mono (Nat.le_add_left n m)
  | request r next ih =>
    refine ⟨Nat.le_add_right_of_le hp.1, fun x => ?_⟩
    rw [Nat.sub_add_comm hp.1]
    exact ih x (hp.2 x)

/-- A loop whose body makes no such request makes none. -/
theorem AtMost.times {p : Program ρ ν Unit} (hp : p.AtMost kind 0) (k : Nat) :
    (times k p).AtMost kind 0 := by
  induction k with
  | zero => exact trivial
  | succ k ih => exact AtMost.bind hp fun _ => ih

/-! ## Which requests -/

/-- All requests of the program have the property `P`, and its result has `Q`, however the
    requests are answered. -/
def Safe (P : ρ → Prop) (Q : α → Prop) : Program ρ ν α → Prop
  | done a => Q a
  | request r next => P r ∧ ∀ x, (next x).Safe P Q

variable {P : ρ → Prop}

@[simp] theorem safe_done (a : α) : (done a : Program ρ ν α).Safe P Q ↔ Q a :=
  Iff.rfl

@[simp] theorem safe_pure (a : α) : (pure a : Program ρ ν α).Safe P Q ↔ Q a :=
  Iff.rfl

@[simp] theorem safe_ask (r : ρ) {Q : ν → Prop} : (ask r).Safe P Q ↔ P r ∧ ∀ x, Q x :=
  Iff.rfl

/-- A sequence is safe if its first part is, and ends where the second part is. -/
@[simp] theorem safe_bind (p : Program ρ ν α) (f : α → Program ρ ν β) :
    (p >>= f).Safe P R ↔ p.Safe P fun a => (f a).Safe P R := by
  induction p with
  | done a => exact Iff.rfl
  | request r next ih => exact and_congr_right fun _ => forall_congr' fun x => ih x

@[simp] theorem safe_ite {c : Prop} [Decidable c] (p q : Program ρ ν α) :
    (if c then p else q).Safe P Q ↔ if c then p.Safe P Q else q.Safe P Q := by
  split
  next => rfl
  next => rfl

theorem Safe.mono {p : Program ρ ν α} {Q' : α → Prop} (h : p.Safe P Q) (hQ : ∀ a, Q a → Q' a) :
    p.Safe P Q' := by
  induction p with
  | done a => exact hQ a h
  | request r next ih => exact ⟨h.1, fun x => ih x (h.2 x)⟩

/-- A loop is safe if its body is. -/
@[simp] theorem safe_times {p : Program ρ ν Unit} {Q : Unit → Prop}
    (hp : p.Safe P fun _ => True) (hQ : Q ()) (k : Nat) : (times k p).Safe P Q := by
  induction k with
  | zero => exact hQ
  | succ k ih => exact (safe_bind p fun _ => times k p).mpr (hp.mono fun _ _ => ih)

@[simp] theorem safe_forM {γ : Type} {f : γ → Program ρ ν PUnit} {Q : PUnit → Prop}
    (hf : ∀ c, (f c).Safe P fun _ => True) (hQ : Q ⟨⟩) (cs : List γ) :
    (forM cs f).Safe P Q := by
  induction cs with
  | nil => exact hQ
  | cons c cs ih => exact (safe_bind (f c) fun _ => forM cs f).mpr ((hf c).mono fun _ _ => ih)

end Program
