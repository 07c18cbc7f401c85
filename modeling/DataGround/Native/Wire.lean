import DataGround.Base.Domain
import Mathlib.Data.List.Infix
import Mathlib.Tactic.NormNum

/-!
# Frames of the native owner transport

A frame is a kind, a length of four bytes and a payload.  The writer hands a frame to a stream that
may take any part of what it is given, and the reader asks a stream that may answer with any part of
what it was asked for.  `reads_written` is about a whole stream: the frames that were written are
read, and a stream that is cut in a frame ends with an error.
-/

namespace DataGround.Native

/-- `maximumPayload`. -/
def maximumPayload : ℕ := 64 * 2 ^ 10

/-- `frame`. -/
structure Frame where
  kind : UInt8
  data : Bytes
  deriving DecidableEq, Repr

/-- The errors of `readFrame`: `io.EOF`, `io.ErrUnexpectedEOF` and `ErrProtocol`. -/
inductive ReadError where
  | eof | unexpectedEOF | protocol
  deriving DecidableEq, Repr

/-- `binary.BigEndian.Uint32`. -/
def uint32 (b₁ b₂ b₃ b₄ : UInt8) : ℕ :=
  b₁.toNat * 2 ^ 24 + b₂.toNat * 2 ^ 16 + b₃.toNat * 2 ^ 8 + b₄.toNat

/-- `binary.BigEndian.PutUint32`. -/
def putUint32 (n : ℕ) : Bytes :=
  [UInt8.ofNat (n / 2 ^ 24), UInt8.ofNat (n / 2 ^ 16), UInt8.ofNat (n / 2 ^ 8), UInt8.ofNat n]

/-- `io.ReadFull` for `size` bytes: what was read, with fewer bytes at the end of the stream, and what
is left.  The stream answers a read with its next piece, or with as much of it as was asked for. -/
def readFull : ℕ → List Bytes → Bytes × List Bytes
  | _, [] => ([], [])
  | size, piece :: pieces =>
    if size ≤ piece.length then (piece.take size, piece.drop size :: pieces)
    else
      let (data, rest) := readFull (size - piece.length) pieces
      (piece ++ data, rest)

/-- `readFrame`. -/
def readFrame (reader : List Bytes) : Except ReadError (Frame × List Bytes) :=
  match readFull 5 reader with
  | ([kind, b₁, b₂, b₃, b₄], reader) =>
    let size := uint32 b₁ b₂ b₃ b₄
    if maximumPayload < size then .error .protocol
    else
      let (data, reader) := readFull size reader
      if data.length < size then .error .protocol else .ok (⟨kind, data⟩, reader)
  | ([], _) => .error .eof
  | _ => .error .unexpectedEOF

/-- At most `n` calls of `readFrame`, to the first error: the frames and the error. -/
def readFrames : ℕ → List Bytes → List Frame × Option ReadError
  | 0, _ => ([], none)
  | n + 1, reader =>
    match readFrame reader with
    | .error e => ([], some e)
    | .ok (frame, reader) =>
      let (frames, e) := readFrames n reader
      (frame :: frames, e)

/-- An answer of `io.Writer.Write`. -/
structure Written where
  n : ℤ
  failed : Bool := false

/-- The inner loop of `write` on one part, with the answers of the stream that are still to come and
the bytes it has taken. -/
def writePart : List Written → Bytes → Bytes → Option (List Written × Bytes)
  | answers, [], output => some (answers, output)
  | [], _ :: _, _ => none
  | answer :: answers, part, output =>
    if answer.failed ∨ answer.n ≤ 0 ∨ (part.length : ℤ) < answer.n then none
    else writePart answers (part.drop answer.n.toNat) (output ++ part.take answer.n.toNat)

/-- `frameWriter.write`, which holds the mutex of the writer from its first byte to its last. -/
def write (answers : List Written) (frame : Frame) (output : Bytes) :
    Option (List Written × Bytes) :=
  if maximumPayload < frame.data.length then none
  else do
    let (answers, output) ← writePart answers (frame.kind :: putUint32 frame.data.length) output
    writePart answers frame.data output

/-- The frames are written one after another, and all of them are accepted. -/
def writeFrames : List Written → List Frame → Bytes → Option (List Written × Bytes)
  | answers, [], output => some (answers, output)
  | answers, frame :: frames, output => do
    let (answers, output) ← write answers frame output
    writeFrames answers frames output

/-- The bytes of a frame. -/
def Frame.encode (frame : Frame) : Bytes :=
  frame.kind :: (putUint32 frame.data.length ++ frame.data)

/-- The bytes of some frames. -/
def encoding (frames : List Frame) : Bytes := frames.flatMap Frame.encode

/-- What reading gives when the stream has these frames and then ends with this error. -/
def ending (frames : List Frame) (e : ReadError) (n : ℕ) : List Frame × Option ReadError :=
  if n ≤ frames.length then (frames.take n, none) else (frames, some e)

variable {reader : List Bytes} {frame : Frame} {frames : List Frame}

/-! ### What the writer puts out -/

/-- However the stream takes a part, it has taken all of it. -/
lemma output_of_writePart {answers rest : List Written} {part output result : Bytes}
    (h : writePart answers part output = some (rest, result)) : result = output ++ part := by
  fun_induction writePart answers part output with
  | case1 answers output =>
    cases h
    exact (List.append_nil _).symm
  | case2 => cases h
  | case3 => cases h
  | case4 output answer answers part hpart hanswer ih =>
    rw [ih h, List.append_assoc, List.take_append_drop]

lemma output_of_write {answers rest : List Written} {output result : Bytes}
    (h : write answers frame output = some (rest, result)) :
    frame.data.length ≤ maximumPayload ∧ result = output ++ frame.encode := by
  rw [write] at h
  obtain ⟨hsize, h⟩ := Option.ite_none_left_eq_some.mp h
  obtain ⟨⟨answers', middle⟩, hheader, hdata⟩ := Option.bind_eq_some_iff.mp h
  refine ⟨Nat.not_lt.mp hsize, ?_⟩
  rw [output_of_writePart hdata, output_of_writePart hheader, List.append_assoc]
  rfl

lemma output_of_writeFrames {answers rest : List Written} {output result : Bytes}
    (h : writeFrames answers frames output = some (rest, result)) :
    (∀ frame ∈ frames, frame.data.length ≤ maximumPayload) ∧ result = output ++ encoding frames := by
  induction frames generalizing answers output with
  | nil =>
    cases h
    exact ⟨List.forall_mem_nil _, (List.append_nil _).symm⟩
  | cons frame frames ih =>
    obtain ⟨⟨answers', middle⟩, hframe, hframes⟩ := Option.bind_eq_some_iff.mp h
    obtain ⟨hsize, rfl⟩ := output_of_write hframe
    obtain ⟨hsizes, rfl⟩ := ih hframes
    exact ⟨List.forall_mem_cons.mpr ⟨hsize, hsizes⟩, List.append_assoc ..⟩

/-! ### What the reader finds -/

lemma uint32_putUint32 {n : ℕ} (h : n < 2 ^ 32) :
    uint32 (UInt8.ofNat (n / 2 ^ 24)) (UInt8.ofNat (n / 2 ^ 16)) (UInt8.ofNat (n / 2 ^ 8))
      (UInt8.ofNat n) = n := by
  simp only [uint32, UInt8.toNat_ofNat']
  omega

/-- However the stream answers, its first bytes are read. -/
lemma readFull_flatten (size : ℕ) (reader : List Bytes) :
    (readFull size reader).1 = reader.flatten.take size ∧
      (readFull size reader).2.flatten = reader.flatten.drop size := by
  induction reader generalizing size with
  | nil => simp [readFull]
  | cons piece pieces ih =>
    rw [readFull, List.flatten_cons, List.take_append, List.drop_append]
    split
    case isTrue h => simp [Nat.sub_eq_zero_of_le h]
    case isFalse h =>
      have hle : piece.length ≤ size := by omega
      simp only [(ih _).1, (ih _).2, List.take_of_length_le hle, List.drop_of_length_le hle,
        List.nil_append, and_self]

/-- The reader at a stream that is too short for a header. -/
lemma readFrame_short (h : reader.flatten.length < 5) :
    readFrame reader = .error (if reader.flatten = [] then .eof else .unexpectedEOF) := by
  have hheader := (readFull_flatten 5 reader).1
  rw [List.take_of_length_le (by omega)] at hheader
  cases hfive : readFull 5 reader with
  | mk header body =>
    rw [hfive] at hheader
    rw [readFrame, hfive, ← hheader]
    rw [← hheader] at h
    match header, h with
    | [], _ | [_], _ | [_, _], _ | [_, _, _], _ | [_, _, _, _], _ => rfl

lemma readFrame_header {kind : UInt8} {n : ℕ} {rest : Bytes} (hn : n ≤ maximumPayload)
    (h : reader.flatten = kind :: (putUint32 n ++ rest)) :
    ∃ reader', reader'.flatten = rest.drop n ∧ readFrame reader =
      if rest.length < n then .error .protocol else .ok (⟨kind, rest.take n⟩, reader') := by
  have hsize : n < 2 ^ 32 := lt_of_le_of_lt hn (by norm_num [maximumPayload])
  obtain ⟨hheader, hbody⟩ := readFull_flatten 5 reader
  rw [h] at hheader hbody
  cases hfive : readFull 5 reader with
  | mk header body =>
    rw [hfive] at hheader hbody
    obtain ⟨hdata, hrest⟩ := readFull_flatten n body
    rw [show body.flatten = rest from hbody] at hdata hrest
    cases hn' : readFull n body with
    | mk data reader' =>
      rw [hn'] at hdata hrest
      obtain rfl : header = kind :: putUint32 n := hheader
      obtain rfl : data = rest.take n := hdata
      refine ⟨reader', hrest, ?_⟩
      simp only [readFrame, hfive, putUint32, uint32_putUint32 hsize, if_neg (Nat.not_lt.mpr hn), hn',
        List.length_take, min_lt_iff, lt_self_iff_false, false_or]

lemma readFrame_encode {rest : Bytes} (hframe : frame.data.length ≤ maximumPayload)
    (h : reader.flatten = frame.encode ++ rest) :
    ∃ reader', readFrame reader = .ok (frame, reader') ∧ reader'.flatten = rest := by
  rw [Frame.encode, List.cons_append, List.append_assoc] at h
  obtain ⟨reader', hrest, hread⟩ := readFrame_header hframe h
  rw [List.drop_left] at hrest
  rw [List.length_append, if_neg (by omega), List.take_left] at hread
  exact ⟨reader', hread, hrest⟩

/-- A part of a frame at the end of the stream is an error. -/
lemma readFrame_cut {part missing : Bytes} (hframe : frame.data.length ≤ maximumPayload)
    (hencode : frame.encode = part ++ missing) (hpart : part ≠ []) (hmissing : missing ≠ [])
    (h : reader.flatten = part) : ∃ e, readFrame reader = .error e ∧ e ≠ .eof := by
  by_cases hshort : part.length < 5
  · rw [readFrame_short (h ▸ hshort), h, if_neg hpart]
    exact ⟨_, rfl, nofun⟩
  · -- The header is there, and the payload is short.
    obtain ⟨data, rfl⟩ : frame.kind :: putUint32 frame.data.length <+: part :=
      List.prefix_of_prefix_length_le (⟨frame.data, rfl⟩ : _ <+: frame.encode)
        ⟨missing, hencode.symm⟩ (Nat.not_lt.mp hshort)
    have hdata : frame.data = data ++ missing := by
      refine (List.append_right_inj (frame.kind :: putUint32 frame.data.length)).mp ?_
      rw [← List.append_assoc, ← hencode]
      rfl
    obtain ⟨reader', -, hread⟩ := readFrame_header hframe h
    refine ⟨.protocol, ?_, nofun⟩
    rw [hread, if_pos]
    rw [hdata, List.length_append]
    have := List.length_pos_iff.mpr hmissing
    omega

/-! ### Whole streams -/

lemma readFrames_ok {reader' : List Bytes} {e : ReadError}
    (h : readFrame reader = .ok (frame, reader'))
    (hrest : ∀ n, readFrames n reader' = ending frames e n) (n : ℕ) :
    readFrames n reader = ending (frame :: frames) e n := by
  cases n with
  | zero => simp [readFrames, ending]
  | succ n =>
    rw [readFrames, h]
    simp only [hrest, ending, List.length_cons, Nat.add_le_add_iff_right]
    split <;> simp

lemma readFrames_error {e : ReadError} (h : readFrame reader = .error e) (n : ℕ) :
    readFrames n reader = ending [] e n := by
  cases n with
  | zero => rfl
  | succ n => rw [readFrames, h]; rfl

lemma readFrames_encoding (hframes : ∀ frame ∈ frames, frame.data.length ≤ maximumPayload)
    (h : reader.flatten = encoding frames) (n : ℕ) : readFrames n reader = ending frames .eof n := by
  induction frames generalizing reader n with
  | nil =>
    refine readFrames_error ?_ n
    rw [readFrame_short (by rw [h]; decide), if_pos (show reader.flatten = [] from h)]
  | cons frame frames ih =>
    obtain ⟨hframe, hframes⟩ := List.forall_mem_cons.mp hframes
    obtain ⟨reader', hread, hrest⟩ := readFrame_encode hframe h
    exact readFrames_ok hread (ih hframes hrest) n

/-- The first frames are complete, and the next one is cut. -/
structure CutsAt (frames : List Frame) (bytes : Bytes) (k : ℕ) : Prop where
  complete : encoding (frames.take k) <+: bytes
  cut : bytes.length < (encoding (frames.take (k + 1))).length

lemma readFrames_cut {missing : Bytes} (hframes : ∀ frame ∈ frames, frame.data.length ≤ maximumPayload)
    (h : encoding frames = reader.flatten ++ missing)
    (hcut : ∀ k, reader.flatten ≠ encoding (frames.take k)) :
    ∃ k e, CutsAt frames reader.flatten k ∧ e ≠ .eof ∧
      ∀ n, readFrames n reader = ending (frames.take k) e n := by
  induction frames generalizing reader with
  | nil => exact absurd (List.append_eq_nil_iff.mp h.symm).1 (hcut 0)
  | cons frame frames ih =>
    obtain ⟨hframe, hframes⟩ := List.forall_mem_cons.mp hframes
    rw [encoding, List.flatMap_cons] at h
    rcases List.append_eq_append_iff.mp h with ⟨rest, hreader, hrest⟩ | ⟨part, hpart, hrest⟩
    · -- The first frame is complete.
      obtain ⟨reader', hread, hreader'⟩ := readFrame_encode hframe hreader
      have hnext : encoding frames = reader'.flatten ++ missing := by
        rw [hreader']
        exact hrest
      obtain ⟨k, e, hk, he, hreads⟩ := ih hframes hnext fun k hk =>
        hcut (k + 1) (by rw [hreader, ← hreader', hk]; rfl)
      refine ⟨k + 1, e, ?_, he, readFrames_ok hread hreads⟩
      rw [hreader, ← hreader']
      refine ⟨(List.prefix_append_right_inj frame.encode).mpr hk.complete, ?_⟩
      have hlength := hk.cut
      rw [List.take_succ_cons, encoding, List.flatMap_cons, List.length_append, List.length_append]
      exact Nat.add_lt_add_left hlength _
    · -- It is the first frame that is cut.
      have hsome : part ≠ [] := by
        rintro rfl
        exact hcut 1 (by rw [List.take_succ_cons, List.take_zero, encoding, List.flatMap_singleton,
          hpart, List.append_nil])
      obtain ⟨e, hread, he⟩ := readFrame_cut hframe hpart (hcut 0) hsome rfl
      refine ⟨0, e, ⟨List.nil_prefix, ?_⟩, he, readFrames_error hread⟩
      have := List.length_pos_iff.mpr hsome
      rw [List.take_succ_cons, List.take_zero, encoding, List.flatMap_singleton, hpart,
        List.length_append]
      omega

/-- **Frames on a stream.**  Whatever parts the stream takes at a time, what the writer has written of
some frames is read as these frames, followed by a clean end; and if only some of the bytes arrive,
so that a frame is cut, the complete frames are read, followed by an error. -/
theorem reads_written (answers rest : List Written) (frames : List Frame) (output : Bytes)
    (h : writeFrames answers frames [] = some (rest, output)) :
    (∀ reader : List Bytes, reader.flatten = output →
      ∀ n, readFrames n reader = ending frames .eof n) ∧
    ∀ reader : List Bytes, reader.flatten <+: output →
      (∀ k, reader.flatten ≠ encoding (frames.take k)) →
      ∃ k e, CutsAt frames reader.flatten k ∧ e ≠ .eof ∧
        ∀ n, readFrames n reader = ending (frames.take k) e n := by
  obtain ⟨hframes, rfl⟩ := output_of_writeFrames h
  rw [List.nil_append]
  refine ⟨fun reader hreader n => readFrames_encoding hframes hreader n, ?_⟩
  rintro reader ⟨missing, hmissing⟩ hcut
  exact readFrames_cut hframes hmissing.symm hcut

/-- Two frames, written with a short write between them. -/
theorem reads_written_two :
    (∀ n, readFrames n [[2, 0, 0], [0, 1], [7, 3, 0, 0, 0, 0]] = ending [⟨2, [7]⟩, ⟨3, []⟩] .eof n) ∧
      ∃ k e, CutsAt [⟨2, [7]⟩, ⟨3, []⟩] [2, 0, 0, 0, 1, 7, 3] k ∧ e ≠ .eof ∧
        ∀ n, readFrames n [[2, 0, 0, 0, 1, 7, 3]] = ending ([⟨2, [7]⟩, ⟨3, []⟩].take k) e n := by
  have h := reads_written [⟨3, false⟩, ⟨2, false⟩, ⟨1, false⟩, ⟨5, false⟩] [] [⟨2, [7]⟩, ⟨3, []⟩] _ rfl
  refine ⟨h.1 _ rfl, h.2 [[2, 0, 0, 0, 1, 7, 3]] (by decide) fun k hk => ?_⟩
  match k with
  | 0 | 1 | _ + 2 => exact absurd hk (by simp [encoding, Frame.encode, putUint32])

end DataGround.Native
