/-!
# Responders

A responder takes a call, in a state, to a reply and the next state. One that may fail becomes
a responder when it is said what comes of a call that fails, and of all calls after it. A caller
may be bound by a contract, which says what calls it makes, for what it has learnt from the
replies so far. If the states of two responders are related, by a relation which each call of
the contract keeps while both reply alike, then no such caller can tell the two apart.

## Key results

- `Responder.replies_of_failed`: after a failure, the replies do not depend on the state
- `PartialResponder.replies_orElse`: one that may fail, and one that simulates it, reply alike
-/

variable {κ σ τ η : Type} {ρ : κ → Type}

/-- What comes of a call depends on the state. The type of the reply depends on the call. -/
abbrev Responder (ρ : κ → Type) (σ : Type) := (call : κ) → σ → ρ call × σ

/-- A call may fail. Then it has no reply, and there is no next state. -/
abbrev PartialResponder (ρ : κ → Type) (σ : Type) := (call : κ) → σ → Option (ρ call × σ)

/-- What a caller learns from replies, and the calls that it may make: they depend on the state
    of the responder and on what it has learnt. -/
structure CallerContract (ρ : κ → Type) (σ η : Type) where
  learn : (call : κ) → ρ call → η → η
  allowed : κ → σ → η → Prop

namespace Responder

/-- The replies to a sequence of calls. -/
def replies (M : Responder ρ σ) : List κ → σ → List ((call : κ) × ρ call)
  | [], _ => []
  | call :: calls, s => ⟨call, (M call s).1⟩ :: M.replies calls (M call s).2

/-- The state after a sequence of calls. -/
def after (M : Responder ρ σ) : List κ → σ → σ
  | [], s => s
  | call :: calls, s => M.after calls (M call s).2

/-- In some states, which it does not leave, a responder has one reply to each call. -/
theorem replies_of_failed {M : Responder ρ σ} {Failed : σ → Prop} {fallback : (call : κ) → ρ call}
    {calls : List κ} (h : ∀ call ∈ calls, ∀ s, Failed s →
      (M call s).1 = fallback call ∧ Failed (M call s).2) {s : σ} (hs : Failed s) :
    M.replies calls s = calls.map (fun call => ⟨call, fallback call⟩) ∧
      Failed (M.after calls s) := by
  induction calls generalizing s with
  | nil => exact ⟨rfl, hs⟩
  | cons call calls ih =>
    obtain ⟨hreply, hnext⟩ := h call List.mem_cons_self s hs
    obtain ⟨hreplies, hafter⟩ := ih (fun c hc => h c (List.mem_cons_of_mem _ hc)) hnext
    refine ⟨?_, hafter⟩
    rw [replies, hreply, hreplies, List.map_cons]

end Responder

namespace PartialResponder

/-- From the first call that fails, all replies are `fallback`. -/
def orElse (P : PartialResponder ρ σ) (fallback : (call : κ) → ρ call) :
    Responder ρ (Option σ)
  | call, none => (fallback call, none)
  | call, some s =>
    match P call s with
    | none => (fallback call, none)
    | some (reply, s) => (reply, some s)

theorem replies_orElse_none (P : PartialResponder ρ σ) (fallback : (call : κ) → ρ call)
    (calls : List κ) :
    (P.orElse fallback).replies calls none = calls.map (fun call => ⟨call, fallback call⟩) ∧
      (P.orElse fallback).after calls none = none := by
  have hnone : ∀ call ∈ calls, ∀ s : Option σ, s = none →
      (P.orElse fallback call s).1 = fallback call ∧ (P.orElse fallback call s).2 = none := by
    rintro call - _ rfl
    exact ⟨rfl, rfl⟩
  exact Responder.replies_of_failed hnone rfl

/-- A caller keeps to its contract, as long as no call fails. -/
def Permitted (P : PartialResponder ρ σ) (C : CallerContract ρ σ η) : List κ → σ → η → Prop
  | [], _, _ => True
  | call :: calls, s, learnt => C.allowed call s learnt ∧
    ∀ reply s', P call s = some (reply, s') → Permitted P C calls s' (C.learn call reply learnt)

/-- What a responder does with a call of the contract, in states that are related and in those
    after a failure. -/
structure SimulatedBy (P : PartialResponder ρ σ) (C : CallerContract ρ σ η)
    (fallback : (call : κ) → ρ call) (N : Responder ρ τ) (R : σ → η → τ → Prop)
    (Failed : τ → Prop) (call : κ) : Prop where
  replies : ∀ {s learnt t reply s'}, R s learnt t → C.allowed call s learnt →
    P call s = some (reply, s') →
      (N call t).1 = reply ∧ R s' (C.learn call reply learnt) (N call t).2
  fails : ∀ {s learnt t}, R s learnt t → C.allowed call s learnt → P call s = none →
    (N call t).1 = fallback call ∧ Failed (N call t).2
  failed : ∀ {t}, Failed t → (N call t).1 = fallback call ∧ Failed (N call t).2

/-- The relation of states, with those after a failure. -/
def Related (R : σ → η → τ → Prop) (Failed : τ → Prop) : Option σ → τ → Prop
  | none, t => Failed t
  | some s, t => ∃ learnt, R s learnt t

/-- A responder that simulates a partial one replies as it does while it does not fail, and
    with `fallback` from then on. -/
theorem replies_orElse {P : PartialResponder ρ σ} {C : CallerContract ρ σ η}
    {fallback : (call : κ) → ρ call} {N : Responder ρ τ} {R : σ → η → τ → Prop}
    {Failed : τ → Prop} {calls : List κ}
    (h : ∀ call ∈ calls, P.SimulatedBy C fallback N R Failed call) {s : σ} {learnt : η} {t : τ}
    (hR : R s learnt t) (hpermitted : P.Permitted C calls s learnt) :
    N.replies calls t = (P.orElse fallback).replies calls (some s) ∧
      Related R Failed ((P.orElse fallback).after calls (some s)) (N.after calls t) := by
  induction calls generalizing s learnt t with
  | nil => exact ⟨rfl, learnt, hR⟩
  | cons call calls ih =>
    obtain ⟨hallowed, hrest⟩ := hpermitted
    have hcall := h call List.mem_cons_self
    have hcalls := fun c hc => h c (List.mem_cons_of_mem call hc)
    rw [Responder.replies, Responder.replies, Responder.after, Responder.after]
    cases hP : P call s with
    | none =>
      obtain ⟨hreply, hfailed⟩ := hcall.fails hR hallowed hP
      have hsome : P.orElse fallback call (some s) = (fallback call, none) := by
        rw [orElse, hP]
      -- from here on, both have only the fallback
      obtain ⟨hN, hafter⟩ := N.replies_of_failed (fun c hc _ ht => (hcalls c hc).failed ht) hfailed
      obtain ⟨horElse, hnone⟩ := P.replies_orElse_none fallback calls
      rw [hsome, hreply, hN, horElse, hnone]
      exact ⟨rfl, hafter⟩
    | some r =>
      obtain ⟨reply, s'⟩ := r
      obtain ⟨hreply, hnext⟩ := hcall.replies hR hallowed hP
      have hsome : P.orElse fallback call (some s) = (reply, some s') := by
        rw [orElse, hP]
      obtain ⟨hreplies, hafter⟩ := ih hcalls hnext (hrest reply s' hP)
      rw [hsome, hreply, hreplies]
      exact ⟨rfl, hafter⟩

end PartialResponder
