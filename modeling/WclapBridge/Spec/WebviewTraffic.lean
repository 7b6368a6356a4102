import Mathlib.Data.List.Pairwise
import WclapBridge.ForStd.Transition
import WclapBridge.Native.Arena
import WclapBridge.Native.WebviewTraffic

/-!
# Every message to a webview is the sender's own

Threads that send at the same time share one buffer for each plugin. The mutex of the
plugin is held from before the buffer gets its size until the host has returned, so what
the host is given is what the sending thread's guest has in memory, whatever other threads
send and write to elsewhere.

The mutex is not recursive. A host that calls the guest out of its `send` must not be
answered on the same thread: the thread would wait for itself.

## Key results

- `trafficOk_step`: one step of one thread
- `webviewTraffic_faithful`: the messages of a run
- `answered_blocks`: what happens after an answer
-/

namespace WclapBridge.Spec

open WclapBridge.Native
open WebviewTraffic (step quiet)

variable {is64 : Bool} {s u : WebviewTraffic is64}

/-! ## Steps -/

/-- The steps of a thread, by what they do. -/
inductive SendStepped (s : WebviewTraffic is64) (t : Nat) :
    WebviewStep is64 → WebviewTraffic is64 → Prop where
  | guest {mem : LinearMemory} (hsize : s.mem.size ≤ mem.size) :
    SendStepped s t (.guest mem) { s with mem := mem }
  | call {send : WebviewSend is64} (houter : ∀ f ∈ (s.threads t).head?, f.2 = .sending) :
    SendStepped s t (.call send) (s.goOn t ((send, .called) :: s.threads t))
  | lock {send : WebviewSend is64} {rest : List (WebviewSend is64 × SendStage)}
    (hstack : s.threads t = (send, .called) :: rest)
    (hfree : (s.plugins send.plugin).owner = none) :
    SendStepped s t .lock
      ((s.setPlugin send.plugin { s.plugins send.plugin with owner := some t }).goOn t
        ((send, .locked) :: rest))
  | resize {send : WebviewSend is64} {rest : List (WebviewSend is64 × SendStage)}
    (hstack : s.threads t = (send, .locked) :: rest) :
    SendStepped s t .resize
      ((s.setPlugin send.plugin { s.plugins send.plugin with
        webviewMessageBuffer := WebviewTraffic.resizeBuffer
          (s.plugins send.plugin).webviewMessageBuffer send.size.toNat }).goOn t
        ((send, .resized) :: rest))
  | wasmMemory {send : WebviewSend is64} {rest : List (WebviewSend is64 × SendStage)}
    (hstack : s.threads t = (send, .resized) :: rest) :
    SendStepped s t .wasmMemory
      (s.goOn t ((send, .copying (s.mem.clamp send.buffer.toUInt64 send.size.toUInt64) 0) ::
        rest))
  | copyByte {send : WebviewSend is64} {start copied : Nat}
    {rest : List (WebviewSend is64 × SendStage)}
    (hstack : s.threads t = (send, .copying start copied) :: rest)
    (hmore : copied < send.size.toNat) :
    SendStepped s t .copyByte
      ((s.setPlugin send.plugin { s.plugins send.plugin with
        webviewMessageBuffer := (s.plugins send.plugin).webviewMessageBuffer.set copied
          (s.mem.bytes (start + copied)) }).goOn t
        ((send, .copying start (copied + 1)) :: rest))
  | send {send : WebviewSend is64} {start : Nat} {rest : List (WebviewSend is64 × SendStage)}
    (hstack : s.threads t = (send, .copying start send.size.toNat) :: rest) :
    SendStepped s t .send
      ((s.deliver ⟨t, send.plugin,
        (s.plugins send.plugin).webviewMessageBuffer.take send.size.toNat⟩).goOn t
        ((send, .sending) :: rest))
  | return_ {send : WebviewSend is64} {rest : List (WebviewSend is64 × SendStage)}
    (hstack : s.threads t = (send, .sending) :: rest) :
    SendStepped s t .return_
      ((s.setPlugin send.plugin { s.plugins send.plugin with owner := none }).goOn t rest)

theorem proceed_stepped {t : Nat} {a : WebviewStep is64} {send : WebviewSend is64}
    {stage : SendStage} {rest : List (WebviewSend is64 × SendStage)}
    (hstack : s.threads t = (send, stage) :: rest)
    (h : s.proceed t a send stage rest = some u) : SendStepped s t a u := by
  unfold WebviewTraffic.proceed at h
  dsimp only at h
  split at h
  next =>
    split at h
    next hfree =>
      cases h
      exact .lock hstack hfree
    next => cases h
  next =>
    cases h
    exact .resize hstack
  next =>
    cases h
    exact .wasmMemory hstack
  next =>
    split at h
    next hmore =>
      cases h
      exact .copyByte hstack hmore
    next => cases h
  next =>
    split at h
    next hall =>
      cases h
      subst hall
      exact .send hstack
    next => cases h
  next =>
    cases h
    exact .return_ hstack
  next => cases h

theorem step_stepped {t : Nat} {a : WebviewStep is64} (h : step s (t, a) = some u) :
    SendStepped s t a u := by
  unfold step at h
  dsimp only at h
  split at h
  next =>
    split at h
    next hsize =>
      cases h
      exact .guest hsize
    next => cases h
  next send hstack =>
    cases h
    have hcall : SendStepped s t (.call send) _ := .call (by simp [hstack])
    rwa [hstack] at hcall
  next send outer rest hstack =>
    cases h
    have hcall : SendStepped s t (.call send) _ := .call (by simp [hstack])
    rwa [hstack] at hcall
  next => cases h
  next hstack => exact proceed_stepped hstack h
  next => cases h

/-! ## One step -/

variable {calm : Prop}

/-- What is in the buffer of a plugin, for a send that has its mutex. If the guest is calm,
    that is the beginning of the message. -/
def Filled (calm : Prop) (mem : LinearMemory) (buffer : List UInt8)
    (send : WebviewSend is64) : SendStage → Prop
  | .resized => buffer.length = send.size.toNat
  | .copying start copied =>
    copied ≤ send.size.toNat ∧ buffer.length = send.size.toNat ∧
      (calm → start = send.buffer.toNat ∧
        buffer.take copied = mem.bytes.read send.buffer.toNat copied)
  | _ => True

/-- Two sends do not have the mutex of the same plugin. -/
def HoldApart (f g : WebviewSend is64 × SendStage) : Prop :=
  f.2.holds = true → g.2.holds = true → f.1.plugin ≠ g.1.plugin

instance : Std.Symm (HoldApart : WebviewSend is64 × SendStage → _ → Prop) where
  symm _ _ h hg hf := (h hf hg).symm

/-- A send on the stack of a thread. -/
structure SendOk (calm : Prop) (s : WebviewTraffic is64) (t : Nat)
    (f : WebviewSend is64 × SendStage) : Prop where
  owned : f.2.holds = true → (s.plugins f.1.plugin).owner = some t
  inRange : calm → f.2 ≠ .sending → InRange s.mem f.1.buffer f.1.size.toNat
  filled : Filled calm s.mem (s.plugins f.1.plugin).webviewMessageBuffer f.1 f.2

/-- The stack of a thread. -/
structure SendsOk (calm : Prop) (s : WebviewTraffic is64) (t : Nat) : Prop where
  /-- Below a send there are only sends whose host has called the guest. -/
  below : ∀ f ∈ (s.threads t).tail, f.2 = .sending
  /-- A thread holds the mutex of a plugin once. -/
  apart : (s.threads t).Pairwise HoldApart
  sends : ∀ f ∈ s.threads t, SendOk calm s t f

/-- All threads. -/
def TrafficOk (calm : Prop) (s : WebviewTraffic is64) : Prop :=
  ∀ t, SendsOk calm s t

/-- A send does not mind what happens to the plugins whose mutex it does not have. -/
theorem SendOk.frame {t : Nat} {f : WebviewSend is64 × SendStage} (h : SendOk calm s t f)
    (hmem : u.mem = s.mem)
    (hplugin : f.2.holds = true → u.plugins f.1.plugin = s.plugins f.1.plugin) :
    SendOk calm u t f := by
  refine ⟨fun hholds => ?_, fun hcalm hstage => ?_, ?_⟩
  · rw [hplugin hholds]
    exact h.owned hholds
  · rw [hmem]
    exact h.inRange hcalm hstage
  · obtain ⟨send, stage⟩ := f
    cases stage with
    | called => exact trivial
    | _ =>
      rw [hplugin rfl, hmem]
      exact h.filled

/-- A thread that has a mutex, or takes one that is free, goes on. What it changes is one
    plugin, which no other send can have the mutex of. -/
theorem TrafficOk.goOn (hs : TrafficOk calm s) {t : Nat} {send : WebviewSend is64}
    {rest : List (WebviewSend is64 × SendStage)} (hrest : ∀ f ∈ rest, f ∈ (s.threads t).tail)
    (hown : ∀ t', (s.plugins send.plugin).owner = some t' → t' = t)
    (hothers : ∀ f ∈ rest, f.1.plugin ≠ send.plugin)
    (hmem : u.mem = s.mem) (hplugins : ∀ p, p ≠ send.plugin → u.plugins p = s.plugins p)
    (hthreads : ∀ t', t' ≠ t → u.threads t' = s.threads t')
    (happart : rest.Pairwise HoldApart)
    (hstack : u.threads t = rest ∨
      ∃ stage, u.threads t = (send, stage) :: rest ∧ SendOk calm u t (send, stage)) :
    TrafficOk calm u := by
  intro t'
  by_cases ht : t' = t
  · subst ht
    have hbelow : ∀ f ∈ rest, f.2 = .sending := fun f hf => (hs t').below f (hrest f hf)
    have hsends : ∀ f ∈ rest, SendOk calm u t' f := fun f hf =>
      ((hs t').sends f (List.mem_of_mem_tail (hrest f hf))).frame hmem fun _ =>
        hplugins _ (hothers f hf)
    rcases hstack with hstack | ⟨stage, hstack, htop⟩
    · refine ⟨fun f hf => hbelow f ?_, by rwa [hstack], fun f hf => hsends f ?_⟩
      · rw [hstack] at hf
        exact List.mem_of_mem_tail hf
      · rwa [hstack] at hf
    · refine ⟨fun f hf => hbelow f ?_, ?_, fun f hf => ?_⟩
      · rwa [hstack] at hf
      · rw [hstack, List.pairwise_cons]
        exact ⟨fun g hg _ _ h => hothers g hg h.symm, happart⟩
      · rw [hstack] at hf
        rcases List.mem_cons.mp hf with rfl | hf
        · exact htop
        · exact hsends f hf
  · -- another thread: if it has a mutex, then not this one
    have hsame := hthreads t' ht
    refine ⟨by rw [hsame]; exact (hs t').below, by rw [hsame]; exact (hs t').apart, ?_⟩
    intro f hf
    rw [hsame] at hf
    have hf := (hs t').sends f hf
    refine hf.frame hmem fun hholds => hplugins _ fun hp => ht (hown t' ?_)
    rw [← hp]
    exact hf.owned hholds

/-- The same, for a thread that has the mutex. -/
theorem TrafficOk.advance (hs : TrafficOk calm s) {t : Nat} {send : WebviewSend is64}
    {stage : SendStage} {rest : List (WebviewSend is64 × SendStage)}
    (hstack : s.threads t = (send, stage) :: rest) (hholds : stage.holds = true)
    (hmem : u.mem = s.mem) (hplugins : ∀ p, p ≠ send.plugin → u.plugins p = s.plugins p)
    (hthreads : ∀ t', t' ≠ t → u.threads t' = s.threads t')
    (hstack' : u.threads t = rest ∨
      ∃ stage, u.threads t = (send, stage) :: rest ∧ SendOk calm u t (send, stage)) :
    TrafficOk calm u := by
  have hok := hs t
  have htop : (send, stage) ∈ s.threads t := by rw [hstack]; exact List.mem_cons_self
  have happart := hok.apart
  have hbelow := hok.below
  rw [hstack, List.pairwise_cons] at happart
  rw [hstack] at hbelow
  refine hs.goOn (fun f (hf : f ∈ rest) => by rwa [hstack]) ?_ (fun f hf h => ?_) hmem hplugins
    hthreads happart.2 hstack'
  · intro t' ht'
    rw [(hok.sends _ htop).owned hholds] at ht'
    exact (Option.some.inj ht').symm
  · exact happart.1 f hf hholds (by rw [hbelow f hf]; rfl) h.symm

/-- A step of a run in which nobody writes to a message while it is being sent, and every
    message is in the guest's memory. -/
def Undisturbed (s : WebviewTraffic is64) (a : Nat × WebviewStep is64) : Prop :=
  match a.2 with
  | .guest mem => ∀ t, ∀ f ∈ s.threads t, f.2 ≠ .sending →
      ∀ x, span f.1.buffer.toNat f.1.size.toNat x → mem.bytes x = s.mem.bytes x
  | .call send => InRange s.mem send.buffer send.size.toNat
  | _ => True

/-- The guest writes. -/
theorem SendOk.guest {t : Nat} {f : WebviewSend is64 × SendStage} {mem : LinearMemory}
    (h : SendOk calm s t f) (hsize : s.mem.size ≤ mem.size)
    (hsame : calm → f.2 ≠ .sending →
      ∀ x, span f.1.buffer.toNat f.1.size.toNat x → mem.bytes x = s.mem.bytes x) :
    SendOk calm { s with mem := mem } t f := by
  have hsize' := UInt64.le_iff_toNat_le.mp hsize
  refine ⟨h.owned, fun hcalm hstage => (h.inRange hcalm hstage).of_size hsize', ?_⟩
  obtain ⟨send, stage⟩ := f
  have hfilled := h.filled
  cases stage with
  | copying start copied =>
    obtain ⟨hle, hlength, hcopied⟩ := hfilled
    refine ⟨hle, hlength, fun hcalm => ⟨(hcopied hcalm).1, (hcopied hcalm).2.trans ?_⟩⟩
    refine Cells.read_congr fun x hx => (hsame hcalm nofun x ⟨hx.1, ?_⟩).symm
    have hx := hx.2
    omega
  | _ => exact hfilled

theorem length_resizeBuffer (buffer : List UInt8) (size : Nat) :
    (WebviewTraffic.resizeBuffer buffer size).length = size := by
  simp only [WebviewTraffic.resizeBuffer, List.length_take, List.length_append,
    List.length_replicate]
  omega

/-- The next stage of a send. -/
theorem SendOk.next {t : Nat} {send : WebviewSend is64} {stage stage' : SendStage}
    (h : SendOk calm s t (send, stage)) (hstage : stage ≠ .sending) (hmem : u.mem = s.mem)
    (howner : (u.plugins send.plugin).owner = some t)
    (hfilled : Filled calm s.mem (u.plugins send.plugin).webviewMessageBuffer send stage') :
    SendOk calm u t (send, stage') := by
  refine ⟨fun _ => howner, fun hcalm _ => ?_, ?_⟩
  · rw [hmem]
    exact h.inRange hcalm hstage
  · rw [hmem]
    exact hfilled

/-- Another byte. -/
theorem Filled.copyByte {mem : LinearMemory} {buffer : List UInt8} {send : WebviewSend is64}
    {start copied : Nat} (h : Filled calm mem buffer send (.copying start copied))
    (hmore : copied < send.size.toNat) :
    Filled calm mem (buffer.set copied (mem.bytes (start + copied))) send
      (.copying start (copied + 1)) := by
  obtain ⟨-, hlength, hcopied⟩ := h
  refine ⟨hmore, by rwa [List.length_set], fun hcalm => ⟨(hcopied hcalm).1, ?_⟩⟩
  rw [(hcopied hcalm).1]
  exact Cells.take_set_read (by omega) (hcopied hcalm).2

/-- The place that `wasmMemory` finds for a message in the guest's memory. -/
theorem clamp_webviewSend {send : WebviewSend is64} {mem : LinearMemory}
    (h : InRange mem send.buffer send.size.toNat) :
    mem.clamp send.buffer.toUInt64 send.size.toUInt64 = send.buffer.toNat := by
  have hin : send.buffer.toUInt64.toNat + send.size.toUInt64.toNat ≤ mem.size.toNat := by
    rw [Pointer.toNat_toUInt64, UInt32.toNat_toUInt64]
    exact h.inMemory
  rw [LinearMemory.clamp_of_inRange _ hin, Pointer.toNat_toUInt64]

/-- One step of one thread. -/
theorem trafficOk_step {t : Nat} {a : WebviewStep is64} (hs : TrafficOk calm s)
    (hundisturbed : calm → Undisturbed s (t, a)) (h : step s (t, a) = some u) :
    TrafficOk calm u := by
  have hothers : ∀ (stack : List (WebviewSend is64 × SendStage)) (t' : Nat), t' ≠ t →
      Function.update s.threads t stack t' = s.threads t' := fun stack t' ht =>
    Function.update_of_ne ht _ _
  have hself : ∀ stack : List (WebviewSend is64 × SendStage),
      Function.update s.threads t stack t = stack := fun stack => Function.update_self ..
  have hplugin : ∀ (p : Nat) (buffer : WebviewBuffer),
      Function.update s.plugins p buffer p = buffer := fun p buffer => Function.update_self ..
  have htop : ∀ {send stage rest}, s.threads t = (send, stage) :: rest →
      SendOk calm s t (send, stage) := fun hstack =>
    (hs t).sends _ (by rw [hstack]; exact List.mem_cons_self)
  cases step_stepped h with
  | guest hsize =>
    intro t'
    exact ⟨(hs t').below, (hs t').apart, fun f hf =>
      ((hs t').sends f hf).guest hsize fun hcalm => hundisturbed hcalm t' f hf⟩
  | @call send houter =>
    intro t'
    have hframe : ∀ f ∈ s.threads t',
        SendOk calm (s.goOn t ((send, .called) :: s.threads t)) t' f := fun f hf =>
      ((hs t').sends f hf).frame rfl fun _ => rfl
    by_cases ht : t' = t
    · subst ht
      have hstack : (s.goOn t' ((send, .called) :: s.threads t')).threads t' =
          (send, .called) :: s.threads t' := hself _
      refine ⟨fun f hf => ?_, ?_, fun f hf => ?_⟩
      · rw [hstack, List.tail_cons] at hf
        cases hrest : s.threads t' with
        | nil =>
          rw [hrest] at hf
          cases hf
        | cons outer rest =>
          rw [hrest] at hf houter
          rcases List.mem_cons.mp hf with rfl | hf
          · exact houter f rfl
          · exact (hs t').below f (by rwa [hrest])
      · rw [hstack, List.pairwise_cons]
        exact ⟨fun g hg hholds => (nomatch hholds), (hs t').apart⟩
      · rw [hstack] at hf
        rcases List.mem_cons.mp hf with rfl | hf
        · exact ⟨fun hholds => (nomatch hholds), fun hcalm _ => hundisturbed hcalm, trivial⟩
        · exact hframe f hf
    · have hsame := hothers ((send, .called) :: s.threads t) t' ht
      refine ⟨?_, ?_, fun f hf => hframe f ?_⟩
      · show ∀ f ∈ (Function.update s.threads t _ t').tail, _
        rw [hsame]
        exact (hs t').below
      · show (Function.update s.threads t _ t').Pairwise _
        rw [hsame]
        exact (hs t').apart
      · exact hsame ▸ hf
  | @lock send rest hstack hfree =>
    have hok := hs t
    have happart := hok.apart
    have hbelow := hok.below
    rw [hstack] at happart hbelow
    refine hs.goOn (fun f (hf : f ∈ rest) => by rwa [hstack]) (fun t' ht' => ?_)
      (fun f hf hp => ?_) rfl (fun p hp => Function.update_of_ne hp _ _) (hothers _)
      (List.pairwise_cons.mp happart).2 (.inr ⟨_, hself _, ?_⟩)
    · rw [hfree] at ht'
      cases ht'
    · -- the mutex is free, so the thread does not have it already
      have hf' := hok.sends f (by rw [hstack]; exact List.mem_cons_of_mem _ hf)
      have howned := hf'.owned (by rw [hbelow f hf]; rfl)
      rw [hp, hfree] at howned
      cases howned
    · exact (htop hstack).next nofun rfl (congrArg WebviewBuffer.owner (hplugin _ _)) trivial
  | resize hstack =>
    refine hs.advance hstack rfl rfl (fun p hp => Function.update_of_ne hp _ _) (hothers _)
      (.inr ⟨_, hself _, (htop hstack).next nofun rfl ?_ ?_⟩)
    · exact (congrArg WebviewBuffer.owner (hplugin _ _)).trans ((htop hstack).owned rfl)
    · exact (congrArg (List.length ∘ WebviewBuffer.webviewMessageBuffer) (hplugin _ _)).trans
        (length_resizeBuffer _ _)
  | wasmMemory hstack =>
    refine hs.advance hstack rfl rfl (fun _ _ => rfl) (hothers _)
      (.inr ⟨_, hself _, (htop hstack).next nofun rfl ((htop hstack).owned rfl) ?_⟩)
    exact ⟨Nat.zero_le _, (htop hstack).filled, fun hcalm =>
      ⟨clamp_webviewSend ((htop hstack).inRange hcalm nofun), rfl⟩⟩
  | copyByte hstack hmore =>
    refine hs.advance hstack rfl rfl (fun p hp => Function.update_of_ne hp _ _) (hothers _)
      (.inr ⟨_, hself _, (htop hstack).next nofun rfl ?_ ?_⟩)
    · exact (congrArg WebviewBuffer.owner (hplugin _ _)).trans ((htop hstack).owned rfl)
    · have hfilled := (htop hstack).filled.copyByte hmore
      show Filled calm _ (Function.update s.plugins _ _ _).webviewMessageBuffer _ _
      rwa [hplugin]
  | send hstack =>
    exact hs.advance hstack rfl rfl (fun _ _ => rfl) (hothers _)
      (.inr ⟨_, hself _, (htop hstack).next nofun rfl ((htop hstack).owned rfl) trivial⟩)
  | return_ hstack =>
    exact hs.advance hstack rfl rfl (fun p hp => Function.update_of_ne hp _ _) (hothers _)
      (.inl (hself _))

/-- The mutex does its work whatever the guest writes. -/
theorem trafficOk_anyStep (s : WebviewTraffic is64) (a : Nat × WebviewStep is64)
    (u : WebviewTraffic is64) (hs : TrafficOk False s) (hu : step s a = some u) :
    TrafficOk False u :=
  trafficOk_step hs False.elim hu

/-! ## Runs -/

theorem trafficOk_quiet (mem : LinearMemory) : TrafficOk calm (quiet mem : WebviewTraffic is64) :=
  fun _ => ⟨nofun, .nil, nofun⟩

/-- Of all sends of all threads, one at most has the mutex of a plugin. -/
def OneSender (s : WebviewTraffic is64) : Prop :=
  ∀ t, ∀ f ∈ s.threads t, ∀ t', ∀ f' ∈ s.threads t', f.2.holds = true → f'.2.holds = true →
    f.1.plugin = f'.1.plugin → t = t' ∧ f = f'

theorem oneSender (hs : TrafficOk calm s) : OneSender s := by
  intro t f hf t' f' hf' hholds hholds' hplugin
  have ht : t = t' := by
    have howner := ((hs t).sends f hf).owned hholds
    rw [hplugin, ((hs t').sends f' hf').owned hholds'] at howner
    exact (Option.some.inj howner).symm
  subst ht
  refine ⟨rfl, ?_⟩
  by_contra hne
  exact (hs t).apart.forall hf hf' hne hholds hholds' hplugin

/-- A host gets a message in a `send` only: as many bytes as the thread has asked for in its
    innermost send, for the plugin that it has named; and if the guest is calm, the bytes
    are those that are in its memory. -/
def GivesOwn (calm : Prop) (s : WebviewTraffic is64) (a : Nat × WebviewStep is64) : Prop :=
  ∀ u, step s a = some u →
    match a.2 with
    | .send => ∃ send start rest message,
        s.threads a.1 = (send, .copying start send.size.toNat) :: rest ∧
          u.messages = s.messages ++ [⟨a.1, send.plugin, message⟩] ∧
          message.length = send.size.toNat ∧
          (calm → message = s.mem.bytes.read send.buffer.toNat send.size.toNat)
    | _ => u.messages = s.messages

theorem givesOwn (hs : TrafficOk calm s) (a : Nat × WebviewStep is64) : GivesOwn calm s a := by
  intro u hu
  obtain ⟨t, a⟩ := a
  cases step_stepped hu with
  | @send send start rest hstack =>
    have htop := (hs t).sends _ (by rw [hstack]; exact List.mem_cons_self)
    obtain ⟨-, hlength, hcopied⟩ := htop.filled
    refine ⟨send, start, rest, _, hstack, rfl, ?_, fun hcalm => (hcopied hcalm).2⟩
    rw [List.length_take, hlength, Nat.min_self]
  | _ => rfl

/-- In every run of any number of threads, one send at a time has the buffer of a plugin,
    and every message is that of the thread which sends it. -/
theorem webviewTraffic_faithful (mem : LinearMemory) (as : List (Nat × WebviewStep is64)) :
    States step OneSender (quiet mem) as ∧ Steps step (GivesOwn False) (quiet mem) as ∧
      (Steps step Undisturbed (quiet mem) as → Steps step (GivesOwn True) (quiet mem) as) := by
  have hstates : States step (TrafficOk False) (quiet mem) as :=
    States.of_invariant _ trafficOk_anyStep (trafficOk_quiet mem)
  refine ⟨hstates.mono fun s => oneSender, Steps.of_states (fun s a hs => givesOwn hs a) hstates,
    Steps.of_invariant (TrafficOk True) ?_ (fun s a hs _ => givesOwn hs a)
      (trafficOk_quiet mem)⟩
  intro s a u hs ha hu
  exact trafficOk_step hs (fun _ => ha) hu

/-! ## Answers -/

/-- A thread that was called by the host out of a `send`, and sends for the same plugin. -/
structure Answers (s : WebviewTraffic is64) (t plugin : Nat) : Prop where
  own : (s.plugins plugin).owner = some t
  waits : ∃ send rest, s.threads t = (send, .called) :: rest ∧ send.plugin = plugin

/-- What the host of a plugin was given. -/
def messagesOf (s : WebviewTraffic is64) (plugin : Nat) : List WebviewMessage :=
  s.messages.filter (·.plugin = plugin)

theorem Answers.frame {t plugin : Nat} (h : Answers s t plugin)
    (hthread : u.threads t = s.threads t) (hplugin : u.plugins plugin = s.plugins plugin) :
    Answers u t plugin :=
  ⟨by rw [hplugin]; exact h.own, by rw [hthread]; exact h.waits⟩

/-- No thread can do anything about it. -/
theorem answers_step {t plugin : Nat} (hs : TrafficOk False s) (h : Answers s t plugin)
    {a : Nat × WebviewStep is64} (hu : step s a = some u) :
    u.threads t = s.threads t ∧ Answers u t plugin ∧ messagesOf u plugin = messagesOf s plugin := by
  obtain ⟨own, _, hwaits, hown⟩ : ∃ send rest, s.threads t = (send, .called) :: rest ∧
    send.plugin = plugin := h.waits
  obtain ⟨t', a⟩ := a
  -- a thread that has a mutex is another one, and its mutex is another one as well
  have hholds : ∀ {send stage rest}, s.threads t' = (send, stage) :: rest →
      stage.holds = true → t' ≠ t ∧ send.plugin ≠ plugin := by
    intro send stage rest hstack hstage
    have ht : t' ≠ t := by
      rintro rfl
      rw [hwaits] at hstack
      cases hstack
      cases hstage
    have howned := ((hs t').sends _ (by rw [hstack]; exact List.mem_cons_self)).owned hstage
    refine ⟨ht, ?_⟩
    rintro rfl
    rw [h.own] at howned
    exact ht (Option.some.inj howned).symm
  have hthread : ∀ stack : List (WebviewSend is64 × SendStage), t' ≠ t →
      Function.update s.threads t' stack t = s.threads t := fun stack ht =>
    Function.update_of_ne ht.symm _ _
  have hplugin : ∀ (p : Nat) (buffer : WebviewBuffer), p ≠ plugin →
      Function.update s.plugins p buffer plugin = s.plugins plugin := fun p buffer hp =>
    Function.update_of_ne hp.symm _ _
  cases step_stepped hu with
  | guest => exact ⟨rfl, h.frame rfl rfl, rfl⟩
  | call houter =>
    have ht : t' ≠ t := by
      rintro rfl
      have hsending : SendStage.called = .sending := houter (own, .called) (by rw [hwaits]; rfl)
      cases hsending
    exact ⟨hthread _ ht, h.frame (hthread _ ht) rfl, rfl⟩
  | @lock send rest hstack hfree =>
    have hp : send.plugin ≠ plugin := by
      rintro rfl
      rw [h.own] at hfree
      cases hfree
    have ht : t' ≠ t := by
      -- the mutex that it waits for is its own
      rintro rfl
      rw [hwaits] at hstack
      cases hstack
      exact hp hown
    exact ⟨hthread _ ht, h.frame (hthread _ ht) (hplugin _ _ hp), rfl⟩
  | resize hstack =>
    obtain ⟨ht, hp⟩ := hholds hstack rfl
    exact ⟨hthread _ ht, h.frame (hthread _ ht) (hplugin _ _ hp), rfl⟩
  | wasmMemory hstack =>
    obtain ⟨ht, -⟩ := hholds hstack rfl
    exact ⟨hthread _ ht, h.frame (hthread _ ht) rfl, rfl⟩
  | copyByte hstack =>
    obtain ⟨ht, hp⟩ := hholds hstack rfl
    exact ⟨hthread _ ht, h.frame (hthread _ ht) (hplugin _ _ hp), rfl⟩
  | send hstack =>
    obtain ⟨ht, hp⟩ := hholds hstack rfl
    refine ⟨hthread _ ht, h.frame (hthread _ ht) rfl, ?_⟩
    show List.filter _ (s.messages ++ [_]) = _
    rw [List.filter_append, List.filter_cons_of_neg (by simpa using hp), List.filter_nil,
      List.append_nil]
    rfl
  | return_ hstack =>
    obtain ⟨ht, hp⟩ := hholds hstack rfl
    exact ⟨hthread _ ht, h.frame (hthread _ ht) (hplugin _ _ hp), rfl⟩

/-- A guest that answers its host on the thread on which it was called: from then on, the
    thread waits, and the host of this plugin gets no message from any thread. -/
theorem answered_blocks (mem : LinearMemory) (before after : List (Nat × WebviewStep is64))
    (hs : before.foldlM step (quiet mem) = some s) (t : Nat) (send : WebviewSend is64)
    {rest : List (WebviewSend is64 × SendStage)} (hstack : s.threads t = (send, .called) :: rest)
    (hanswer : ∃ f ∈ rest, f.1.plugin = send.plugin) :
    States step (fun u => u.threads t = s.threads t ∧
      messagesOf u send.plugin = messagesOf s send.plugin) s after := by
  have hok : TrafficOk False s := foldlM_inv _ trafficOk_anyStep (trafficOk_quiet mem) hs
  have hanswers : Answers s t send.plugin := by
    obtain ⟨f, hf, hplugin⟩ := hanswer
    have hbelow := (hok t).below f (by rwa [hstack])
    have howned := ((hok t).sends f (by rw [hstack]; exact List.mem_cons_of_mem _ hf)).owned
    rw [hbelow, hplugin] at howned
    exact ⟨howned rfl, send, rest, hstack, rfl⟩
  have hinv : States step (fun u => TrafficOk False u ∧ Answers u t send.plugin ∧
      u.threads t = s.threads t ∧ messagesOf u send.plugin = messagesOf s send.plugin) s after := by
    refine States.of_invariant _ ?_ ⟨hok, hanswers, rfl, rfl⟩
    rintro u a v ⟨hu, hanswers, hthread, hmessages⟩ hv
    obtain ⟨hthread', hanswers', hmessages'⟩ := answers_step hu hanswers hv
    exact ⟨trafficOk_anyStep u a v hu hv, hanswers', hthread'.trans hthread,
      hmessages'.trans hmessages⟩
  exact hinv.mono fun u hu => hu.2.2

/-- An empty message for a plugin. -/
def greeting : WebviewSend false := ⟨0, .ofNat 16, 0⟩

/-- The host calls the guest out of its `send`, and the guest answers. -/
def answeredGreeting : List (Nat × WebviewStep false) :=
  [(0, .call greeting), (0, .lock), (0, .resize), (0, .wasmMemory), (0, .send),
    (0, .call greeting)]

theorem answered_blocks_greeting :
    ∃ s, answeredGreeting.foldlM step (quiet .onePage) = some s ∧
      States step (fun u => u.threads 0 = s.threads 0 ∧
          messagesOf u greeting.plugin = messagesOf s greeting.plugin) s
        [(1, .call greeting), (0, .lock), (1, .lock)] :=
  ⟨_, rfl, answered_blocks .onePage answeredGreeting _ rfl 0 greeting rfl
    ⟨_, List.mem_cons_self, rfl⟩⟩

end WclapBridge.Spec
