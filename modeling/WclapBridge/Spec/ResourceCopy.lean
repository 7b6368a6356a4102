import Mathlib.Algebra.Group.Nat.Defs
import Mathlib.Data.List.Infix
import WclapBridge.Native.Resource

/-!
# Resources that are written in pieces

However a host splits the file which `webview_get_resource` writes to it, each write
is of the bytes that come next. The loop ends, since each write that does not end
it makes the rest shorter.

## Key results

- `Copying.write`: what one write does to the bytes that were accepted
- `run_spec`: the loop ends, whatever the host accepts
- `resourceCopy_faithful`: a file that has been read is copied as far as the host accepts it
-/

namespace WclapBridge.Spec

open WclapBridge.Native

variable {σ : Type} {ostream : ClapOstream σ} {start : σ} {file : List UInt8}

/-- The writes are of a file from its start on, each of what comes next. -/
structure PiecesInOrder (file : List UInt8) (writes : List StreamWrite) : Prop where
  /-- At any time the host has accepted the front of the file. -/
  received : ∀ before, before <+: writes → acceptedBytes before <+: file
  offered : ∀ before w after, writes = before ++ w :: after →
    w.offered = file.drop (acceptedBytes before).length

/-- The host gives these results to these writes, one after the other. -/
def StreamAnswers (ostream : ClapOstream σ) : σ → List StreamWrite → σ → Prop
  | host, [], last => last = host
  | host, w :: writes, last =>
    ∃ next, ostream.write host w.offered = (w.result, next) ∧ StreamAnswers ostream next writes last

/-- A file was copied to a stream with some writes, and the result is right. -/
structure CopiesFile (ostream : ClapOstream σ) (start : σ) (file : List UInt8) (result : Bool)
    (writes : List StreamWrite) (last : σ) : Prop where
  answered : StreamAnswers ostream start writes last
  inOrder : PiecesInOrder file writes
  complete : result = true ↔ acceptedBytes writes = file
  refused : result = false ↔ ∃ w ∈ writes, w.result ≤ 0
  /-- A write that is refused is the last. -/
  last : ∀ before w after, writes = before ++ w :: after → w.result ≤ 0 → after = []

/-! ## One write -/

@[simp] theorem acceptedBytes_append (writes writes' : List StreamWrite) :
    acceptedBytes (writes ++ writes') = acceptedBytes writes ++ acceptedBytes writes' :=
  List.flatMap_append

@[simp] theorem acceptedBytes_singleton (w : StreamWrite) : acceptedBytes [w] = w.accepted :=
  List.flatMap_singleton _ _

theorem inOrder_nil (file : List UInt8) : PiecesInOrder file [] where
  received before h := by
    rw [List.prefix_nil.mp h]
    exact List.nil_prefix
  offered before w after h := absurd h.symm (List.append_ne_nil_of_right_ne_nil _ (by simp))

/-- One more write, of what comes next. -/
theorem PiecesInOrder.concat {writes : List StreamWrite} (h : PiecesInOrder file writes)
    {w : StreamWrite} (hw : w.offered = file.drop (acceptedBytes writes).length) :
    PiecesInOrder file (writes ++ [w]) where
  received before hbefore := by
    rcases List.prefix_concat_iff.mp hbefore with rfl | hbefore
    · obtain ⟨rest, hrest⟩ := h.received writes List.prefix_rfl
      -- what was accepted, and a part of the rest
      have hoffered : w.offered = rest := by
        rw [hw, ← hrest, List.drop_left]
      rw [acceptedBytes_append, acceptedBytes_singleton, ← hrest, StreamWrite.accepted, hoffered]
      exact (List.prefix_append_right_inj _).mpr (List.take_prefix _ _)
    · exact h.received before hbefore
  offered before w' after hsplit := by
    rcases List.eq_nil_or_concat' after with rfl | ⟨after, last, rfl⟩
    · obtain ⟨rfl, hlast⟩ := List.append_inj' hsplit rfl
      cases hlast
      exact hw
    · rw [← List.cons_append, ← List.append_assoc] at hsplit
      exact h.offered before w' after (List.append_inj' hsplit rfl).1

theorem StreamAnswers.concat {writes : List StreamWrite} {host : σ}
    (h : StreamAnswers ostream start writes host) {w : StreamWrite} {last : σ}
    (hw : ostream.write host w.offered = (w.result, last)) :
    StreamAnswers ostream start (writes ++ [w]) last := by
  induction writes generalizing start with
  | nil =>
    cases h
    exact ⟨last, hw, rfl⟩
  | cons first writes ih =>
    obtain ⟨next, hfirst, hrest⟩ := h
    exact ⟨next, hfirst, ih hrest⟩

/-- The invariant of the loop. -/
structure Copying (ostream : ClapOstream σ) (start : σ) (file : List UInt8) (s : CopyLoop σ) :
    Prop where
  answered : StreamAnswers ostream start s.writes s.host
  inOrder : PiecesInOrder file s.writes
  accepted : acceptedBytes s.writes = file.take s.index.toNat
  index_le : s.index.toNat ≤ file.length
  positive : ∀ w ∈ s.writes, 0 < w.result

/-- What a write `w` makes of it, which leaves the host with `host`. -/
structure OneMore (ostream : ClapOstream σ) (start : σ) (file : List UInt8) (s : CopyLoop σ)
    (w : StreamWrite) (host : σ) : Prop where
  result_le : w.result.toInt ≤ (file.length - s.index.toNat : Nat)
  answered : StreamAnswers ostream start (s.writes ++ [w]) host
  inOrder : PiecesInOrder file (s.writes ++ [w])
  accepted : acceptedBytes (s.writes ++ [w]) =
    file.take (s.index.toNat + w.result.toNatClampNeg)

theorem Copying.length_accepted {s : CopyLoop σ} (h : Copying ostream start file s) :
    (acceptedBytes s.writes).length = s.index.toNat := by
  rw [h.accepted, List.length_take, Nat.min_eq_left h.index_le]

/-- A write is of what comes next, and is accepted up to its result. -/
theorem Copying.write {s : CopyLoop σ} (h : Copying ostream start file s) :
    ∃ (host : σ) (result : Int64), s.write ostream file = (result,
        { s with host, writes := s.writes ++ [⟨file.drop s.index.toNat, result⟩] }) ∧
      OneMore ostream start file s ⟨file.drop s.index.toNat, result⟩ host := by
  refine ⟨(ostream.write s.host (file.drop s.index.toNat)).2,
    (ostream.write s.host (file.drop s.index.toNat)).1, rfl, ?_, h.answered.concat rfl,
    h.inOrder.concat (by rw [h.length_accepted]), ?_⟩
  · have hle := ostream.write_le s.host (file.drop s.index.toNat)
    rwa [List.length_drop] at hle
  · rw [acceptedBytes_append, acceptedBytes_singleton, h.accepted, StreamWrite.accepted,
      List.take_add]

/-! ## The loop -/

/-- A refused write ends the loop with a part of the file. -/
theorem Copying.refused {s : CopyLoop σ} (h : Copying ostream start file s) {w : StreamWrite}
    {host : σ} (hlt : s.index.toNat < file.length) (hle : w.result ≤ 0)
    (hmore : OneMore ostream start file s w host) :
    CopiesFile ostream start file false (s.writes ++ [w]) host where
  answered := hmore.answered
  inOrder := hmore.inOrder
  complete := by
    have hzero : w.result.toNatClampNeg = 0 := Int64.toNatClampNeg_eq_zero_iff.mpr hle
    have hne : acceptedBytes (s.writes ++ [w]) ≠ file := fun heq => by
      have hlength := congrArg List.length heq
      rw [hmore.accepted, hzero, List.length_take] at hlength
      omega
    exact iff_of_false Bool.false_ne_true hne
  refused := iff_of_true rfl ⟨w, List.mem_append_right _ (List.mem_singleton_self w), hle⟩
  last before w' after hsplit hle' := by
    rcases List.eq_nil_or_concat' after with rfl | ⟨after, last, rfl⟩
    · rfl
    · -- the writes before the last were accepted
      rw [← List.cons_append, ← List.append_assoc] at hsplit
      have hmem : w' ∈ s.writes := by
        rw [(List.append_inj' hsplit rfl).1]
        exact List.mem_append_right _ List.mem_cons_self
      exact absurd hle' (Int64.not_le.mpr (h.positive w' hmem))

/-- At the end of the file all of it was accepted. -/
theorem Copying.complete {s : CopyLoop σ} (h : Copying ostream start file s)
    (hge : ¬ s.index.toNat < file.length) :
    CopiesFile ostream start file true s.writes s.host where
  answered := h.answered
  inOrder := h.inOrder
  complete := iff_of_true rfl (by rw [h.accepted, List.take_of_length_le (by omega)])
  refused := iff_of_false Bool.true_eq_false.mp fun ⟨w, hw, hle⟩ =>
    Int64.not_le.mpr (h.positive w hw) hle
  last before w after hsplit hle := by
    have hpos := h.positive w (by rw [hsplit]; exact List.mem_append_right _ List.mem_cons_self)
    exact absurd hle (Int64.not_le.mpr hpos)

/-- A write that is accepted leaves the invariant, with less to go. -/
theorem Copying.next {s : CopyLoop σ} (h : Copying ostream start file s)
    (hsize : file.length < 2 ^ 64) {w : StreamWrite} {host : σ} (hpos : 0 < w.result)
    (hmore : OneMore ostream start file s w host) :
    s.index.toNat < (s.index + w.result.toUInt64).toNat ∧
      Copying ostream start file
        (⟨s.index + w.result.toUInt64, host, s.writes ++ [w]⟩ : CopyLoop σ) := by
  have hindex := h.index_le
  have hadvance : w.result.toNatClampNeg ≤ file.length - s.index.toNat :=
    Int.toNat_le.mpr hmore.result_le
  have hpos' : w.result.toNatClampNeg ≠ 0 := fun hzero =>
    Int64.not_le.mpr hpos (Int64.toNatClampNeg_eq_zero_iff.mp hzero)
  -- neither the conversion nor the addition overflows
  have hnat : w.result.toUInt64.toNat = w.result.toNatClampNeg :=
    Int64.toNat_toUInt64_of_le (Int64.le_of_lt hpos)
  have hadd : (s.index + w.result.toUInt64).toNat = s.index.toNat + w.result.toNatClampNeg := by
    rw [UInt64.toNat_add, hnat]
    exact Nat.mod_eq_of_lt (by omega)
  refine ⟨by omega, hmore.answered, hmore.inOrder, ?_, ?_, ?_⟩
  · rw [hadd, ← hmore.accepted]
  · show (s.index + w.result.toUInt64).toNat ≤ file.length
    omega
  · intro w' hw'
    rcases List.mem_append.mp hw' with hw' | hw'
    · exact h.positive w' hw'
    · rw [List.mem_singleton.mp hw']
      exact hpos

/-- The loop ends, and from then on more fuel makes no difference. -/
theorem run_spec (hsize : file.length < 2 ^ 64) {s : CopyLoop σ}
    (h : Copying ostream start file s) :
    ∃ result s', (∀ fuel, file.length - s.index.toNat < fuel →
        CopyLoop.run ostream file fuel s = some (result, s')) ∧
      CopiesFile ostream start file result s'.writes s'.host := by
  -- by induction on what is left of the file
  generalize hleft : file.length - s.index.toNat = left
  induction left using Nat.strong_induction_on generalizing s with
  | _ left ih =>
  by_cases hlt : s.index.toNat < file.length
  · obtain ⟨host, result, hwrite, hmore⟩ := h.write
    by_cases hpos : result ≤ 0
    · refine ⟨false, { s with host, writes := s.writes ++ [⟨file.drop s.index.toNat, result⟩] },
        fun fuel hfuel => ?_, h.refused hlt hpos hmore⟩
      obtain _ | fuel := fuel
      · omega
      rw [CopyLoop.run, if_pos hlt, hwrite]
      exact if_pos hpos
    · obtain ⟨hless, hnext⟩ := h.next hsize (Int64.not_le.mp hpos) hmore
      have hless : s.index.toNat < (s.index + result.toUInt64).toNat := hless
      have hindex : (s.index + result.toUInt64).toNat ≤ file.length := hnext.index_le
      obtain ⟨result', s', hrun, hcopies⟩ :=
        ih (file.length - (s.index + result.toUInt64).toNat) (by omega) hnext rfl
      refine ⟨result', s', fun fuel hfuel => ?_, hcopies⟩
      obtain _ | fuel := fuel
      · omega
      rw [CopyLoop.run, if_pos hlt, hwrite]
      dsimp only
      rw [if_neg hpos]
      exact hrun fuel (by omega)
  · refine ⟨true, s, fun fuel hfuel => ?_, h.complete hlt⟩
    obtain _ | fuel := fuel
    · omega
    rw [CopyLoop.run, if_neg hlt]

/-! ## A file that has been read -/

variable {dirs : ConfiguredDirs} {cwd path mapped : List Char}
  {files : List Char → Option OpenedFile} {stream : OpenedFile}

/-- Once a file of at most 100 MiB has been read, its bytes are written to the host's stream in
    order, and the result tells whether the host has accepted all of them. -/
theorem resourceCopy_faithful (ostream : ClapOstream σ) (host : σ)
    (guessMediaType : List Char → CString) (mimeCapacity : UInt32)
    (hmapped : dirs.resourceFile cwd path = some mapped) (hopen : files mapped = some stream)
    (hread : stream.readable = true) (hsize : stream.contents.length ≤ maxResourceSize) :
    ∃ served : ResourceResult σ,
      (∀ fuel, stream.contents.length < fuel →
        serveFile fuel dirs cwd files guessMediaType path mimeCapacity ostream host =
          some served) ∧
      CopiesFile ostream host stream.contents served.result served.writes served.host := by
  have hbound : stream.contents.length < 2 ^ 64 := Nat.lt_of_le_of_lt hsize (by decide)
  have hstart : Copying ostream host stream.contents (⟨0, host, []⟩ : CopyLoop σ) :=
    ⟨rfl, inOrder_nil _, rfl, Nat.zero_le _, fun _ hw => absurd hw List.not_mem_nil⟩
  obtain ⟨result, s, hrun, hcopies⟩ := run_spec hbound hstart
  refine ⟨⟨result, some (strncpy (guessMediaType path).chars mimeCapacity.toNat), s.host,
    s.writes⟩, fun fuel hfuel => ?_, hcopies⟩
  have hfuel' := hrun fuel (Nat.lt_of_le_of_lt (Nat.sub_le _ _) hfuel)
  simp only [serveFile, hmapped, hopen, hread, if_true, Nat.not_lt.mpr hsize, if_false,
    hfuel', Option.map_some]

/-- A host that accepts two bytes at a time. -/
def twoAtATime : ClapOstream Unit where
  write _ buffer :=
    match buffer with
    | [] => (0, ())
    | [_] => (1, ())
    | _ :: _ :: _ => (2, ())
  write_le _ buffer := by
    rcases buffer with _ | ⟨_, _ | ⟨_, rest⟩⟩
    · exact Int.le_refl 0
    · exact Int.le_refl 1
    · show (2 : Int) ≤ ((rest.length + 1 + 1 : Nat) : Int)
      omega

/-- There is one file. -/
def oneFile (_ : List Char) : Option OpenedFile :=
  some ⟨[7, 8, 9], true⟩

theorem resourceCopy_faithful_pieces :
    ∃ served : ResourceResult Unit,
      (∀ fuel, 3 < fuel →
        serveFile fuel ⟨some "/w".toList, none, none, none⟩ "/".toList oneFile (fun _ => .empty)
          "/plugin.wclap/a".toList 1 twoAtATime () = some served) ∧
      CopiesFile twoAtATime () [7, 8, 9] served.result served.writes served.host := by
  have hmapped : ConfiguredDirs.resourceFile ⟨some "/w".toList, none, none, none⟩ "/".toList
      "/plugin.wclap/a".toList = some "/w/a".toList := by decide
  have hopen : oneFile "/w/a".toList = some ⟨[7, 8, 9], true⟩ := rfl
  exact resourceCopy_faithful twoAtATime () (fun _ => .empty) 1 hmapped hopen rfl (by decide)

end WclapBridge.Spec
