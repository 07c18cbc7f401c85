import DataGround.Base.Domain
import DataGround.Library.Windows

/-!
# The scan of a stream for a canary

`scan` reads a stream in whatever pieces its reader answers with and keeps the last bytes of what it
has read, since a canary may lie across two pieces.  `scan_counts` is about the whole stream: the
scan counts the positions at which it has a canary, each of them once, and those with the committed
digest.  `crypto/sha256` is a parameter.
-/

namespace DataGround.Security

open Library

/-- The UTF-8 bytes of `Prefix`. -/
def canaryPrefix : Bytes :=
  "dataground-canary-v1:".toList.map fun c => UInt8.ofNat c.toNat

/-- `EntropyTextLength`. -/
def entropyTextLength : ℕ := 43

/-- `PlaintextLength`. -/
def plaintextLength : ℕ := canaryPrefix.length + entropyTextLength

/-- `MaxInputBytes`. -/
def maxInputBytes : ℤ := 256 * 2 ^ 20

/-- The errors of an `io.Reader`. -/
inductive ReaderError where
  | eof
  | other (text : String)
  deriving DecidableEq, Repr

inductive ScanError where
  | invalidConfiguration | invalidCommitment | inputLimit | noProgress
  | read (text : String)
  deriving DecidableEq, Repr

/-- `result`. -/
structure Result where
  inspectedBytes : ℕ := 0
  inspectedSHA256 : Bytes := List.replicate 32 0
  (candidates matched : ℕ := 0)
  deriving DecidableEq, Repr

/-- What `input.Read` answers. -/
structure Answer where
  data : Bytes
  err : Option ReaderError := none

/-- A digit of `hex.DecodeString`. -/
def fromHexChar (c : Char) : Option UInt8 :=
  if '0' ≤ c ∧ c ≤ '9' then some (UInt8.ofNat (c.toNat - '0'.toNat))
  else if 'a' ≤ c ∧ c ≤ 'f' then some (UInt8.ofNat (c.toNat - 'a'.toNat + 10))
  else if 'A' ≤ c ∧ c ≤ 'F' then some (UInt8.ofNat (c.toNat - 'A'.toNat + 10))
  else none

/-- `hex.DecodeString`. -/
def decodeString : List Char → Option Bytes
  | [] => some []
  | [_] => none
  | high :: low :: rest => do
    pure ((16 * (← fromHexChar high) + (← fromHexChar low)) :: (← decodeString rest))

/-- `parseCommitment`.  A text that is decoded is ASCII, on which `strings.ToLower` is `Char.toLower`. -/
def parseCommitment (value : String) : Except ScanError Bytes :=
  if ¬"sha256:".toList.isPrefixOf value.toList ∨ value.utf8ByteSize ≠ 7 + 32 * 2 then
    .error .invalidCommitment
  else
    match decodeString (value.toList.drop 7) with
    | none => .error .invalidCommitment
    | some decoded =>
      if value.toList.map Char.toLower ≠ value.toList then .error .invalidCommitment else .ok decoded

/-- `validEntropyText`. -/
def validEntropyText (value : Bytes) : Bool :=
  value.length = entropyTextLength && value.all fun c =>
    (97 ≤ c && c ≤ 122) || (65 ≤ c && c ≤ 90) || (48 ≤ c && c ≤ 57) || c = 45 || c = 95

/-- `bytes.Index` for a separator that is not empty. -/
def index (s sep : Bytes) : Option ℕ :=
  (List.range s.length).find? fun i => sep.isPrefixOf (s.drop i)

section Scan

variable (sha256 : Bytes → Bytes) (target : Bytes)

/-- What `inspectCompleteCandidates` does with a candidate. -/
def Result.inspect (candidate : Bytes) (value : Result) : Result :=
  if validEntropyText (candidate.drop canaryPrefix.length) then
    { value with
      candidates := value.candidates + 1
      matched := value.matched + if sha256 candidate = target then 1 else 0 }
  else value

/-- The loop of `inspectCompleteCandidates`. -/
def inspectFrom (window : Bytes) (completeStarts searchAt : ℕ) (value : Result) : Result :=
  if searchAt < completeStarts then
    match index (window.drop searchAt) canaryPrefix with
    | none => value
    | some offset =>
      let start := searchAt + offset
      if completeStarts ≤ start then value
      else
        let candidate := (window.drop start).take plaintextLength
        inspectFrom window completeStarts (start + 1) (value.inspect sha256 target candidate)
  else value
termination_by completeStarts - searchAt

/-- `inspectCompleteCandidates`: the window that is kept, and the result. -/
def inspectCompleteCandidates (window : Bytes) (value : Result) : Bytes × Result :=
  let completeStarts := window.length + 1 - plaintextLength
  if completeStarts = 0 then (window, value)
  else (window.drop completeStarts, inspectFrom sha256 target window completeStarts 0 value)

/-- The variables of `scan`: what is left of the `io.LimitedReader`, the bytes given to `inputHash`,
the window and the result. -/
structure Scanning where
  n : ℤ
  hashed : Bytes := []
  window : Bytes := []
  value : Result := {}

/-- `io.LimitedReader.Read`.  What a reader still has beyond the limit is not asked for again. -/
def limitedRead (n : ℤ) (answer : Answer) : Answer :=
  if n ≤ 0 then ⟨[], some .eof⟩ else { answer with data := answer.data.take n.toNat }

/-- What `scan` does with the bytes of a read; an error is `ErrInputLimit`. -/
def Scanning.consume (maxBytes : ℤ) (s : Scanning) (data : Bytes) : Except Scanning Scanning :=
  let value := { s.value with inspectedBytes := s.value.inspectedBytes + data.length }
  let s := { s with n := s.n - data.length, hashed := s.hashed ++ data, value }
  if maxBytes < value.inspectedBytes then .error s
  else
    let (window, value) := inspectCompleteCandidates sha256 target (s.window ++ data) s.value
    .ok { s with window, value }

/-- The loop of `scan`, for a reader that gives the answers and then `io.EOF`. -/
def scanLoop (maxBytes : ℤ) : List Answer → Scanning → Scanning × Option ScanError
  | [], s => (s, none)
  | answer :: answers, s =>
    let ⟨data, readErr⟩ := limitedRead s.n answer
    match if data = [] then .ok s else s.consume sha256 target maxBytes data with
    | .error s => (s, some .inputLimit)
    | .ok s =>
      match readErr with
      | some .eof => (s, none)
      | some (.other text) => (s, some (.read text))
      | none => if data = [] then (s, some .noProgress) else scanLoop maxBytes answers s

end Scan

/-- `scan`, with a context that is not cancelled: the result and the error. -/
def scan (sha256 : Bytes → Bytes) (input : Option (List Answer)) (maxBytes : ℤ) (commitment : String) :
    Result × Option ScanError :=
  match parseCommitment commitment, input with
  | .error e, _ => ({}, some e)
  | .ok _, none => ({}, some .inputLimit)
  | .ok target, some answers =>
    if maxBytes ≤ 0 then ({}, some .inputLimit)
    else
      let (s, err) := scanLoop sha256 target maxBytes answers { n := Int.bmod (maxBytes + 1) (2 ^ 64) }
      ({ s.value with inspectedSHA256 := sha256 s.hashed }, err)

structure ReportConfig where
  (surface runId resourceName canaryCommitment : String)
  maxBytes : ℤ

/-- `surfaceResourceKinds`. -/
def surfaceResourceKinds : List (String × String) :=
  [("sandbox-process", "sandbox"), ("sandbox-environment", "sandbox"), ("sandbox-filesystem", "sandbox"),
    ("provider-arguments", "provider"), ("gateway-logs", "gateway"), ("sandbox-logs", "sandbox"),
    ("runtime-errors", "runtime")]

/-- `^[a-f0-9]{32}$`. -/
def runIdMatches (text : String) : Bool :=
  text.length = 32 && text.toList.all fun c => ('a' ≤ c && c ≤ 'f') || ('0' ≤ c && c ≤ '9')

/-- `^[a-z0-9][a-z0-9._-]{0,127}$`. -/
def resourceNameMatches (text : String) : Bool :=
  let alphanumeric := fun c : Char => ('a' ≤ c && c ≤ 'z') || ('0' ≤ c && c ≤ '9')
  match text.toList with
  | [] => false
  | c :: rest => alphanumeric c && rest.length ≤ 127 &&
      rest.all fun c => alphanumeric c || c = '.' || c = '_' || c = '-'

/-- `validateReportConfig`: the kind of the resource, or the errors that are joined. -/
def validateReportConfig (config : ReportConfig) : Except (List ScanError) String :=
  match surfaceResourceKinds.lookup config.surface with
  | none => .error [.invalidConfiguration]
  | some kind =>
    if ¬runIdMatches config.runId ∨ ¬resourceNameMatches config.resourceName ∨ config.maxBytes ≤ 0 ∨
        maxInputBytes < config.maxBytes then
      .error [.invalidConfiguration]
    else
      match parseCommitment config.canaryCommitment with
      | .error e => .error [.invalidConfiguration, e]
      | .ok _ => .ok kind

/-! ### The specification -/

/-- The bytes start with the prefix and the characters of the entropy. -/
def isCanary (s : Bytes) : Bool :=
  canaryPrefix.isPrefixOf s && validEntropyText ((s.take plaintextLength).drop canaryPrefix.length)

/-- The bytes start with a canary of the digest. -/
def isCommitted (sha256 : Bytes → Bytes) (target s : Bytes) : Bool :=
  isCanary s && sha256 (s.take plaintextLength) = target

/-- The reader gives the input in reads that are not empty, and its end with or after the last. -/
inductive Delivers : List Answer → Bytes → Prop
  | last {data : Bytes} {answers : List Answer} : Delivers (⟨data, some .eof⟩ :: answers) data
  | read {data input : Bytes} {answers : List Answer} (hne : data ≠ []) (rest : Delivers answers input) :
    Delivers (⟨data, none⟩ :: answers) (data ++ input)

/-! ### A window is searched for every position -/

lemma length_canaryPrefix : canaryPrefix.length = 21 := by
  decide

lemma plaintextLength_eq : plaintextLength = 64 := by
  rw [plaintextLength, length_canaryPrefix]
  rfl

lemma length_of_isCanary {s : Bytes} (h : isCanary s = true) : plaintextLength ≤ s.length := by
  have hentropy := (Bool.and_eq_true_iff.mp (Bool.and_eq_true_iff.mp h).2).1
  rw [decide_eq_true_eq, List.length_drop, List.length_take] at hentropy
  rw [plaintextLength, entropyTextLength] at *
  omega

lemma readsFirst_isCanary : ReadsFirst isCanary plaintextLength where
  short := fun h => Bool.eq_false_iff.mpr fun hcanary => absurd (length_of_isCanary hcanary) (by omega)
  append := fun {l} l' h => by
    have hprefix : canaryPrefix.isPrefixOf (l ++ l') = canaryPrefix.isPrefixOf l := by
      have hlength : canaryPrefix.length ≤ l.length := le_trans (Nat.le_add_right _ _) h
      rw [Bool.eq_iff_iff, List.isPrefixOf_iff_prefix, List.isPrefixOf_iff_prefix]
      exact ⟨fun hp => List.prefix_of_prefix_length_le hp (List.prefix_append l l') hlength,
        fun hp => hp.trans (List.prefix_append l l')⟩
    rw [isCanary, isCanary, List.take_append_of_le_length h, hprefix]

variable {sha256 : Bytes → Bytes} {target : Bytes}

lemma readsFirst_isCommitted : ReadsFirst (isCommitted sha256 target) plaintextLength where
  short := fun h => by rw [isCommitted, readsFirst_isCanary.short h, Bool.false_and]
  append := fun l' h => by
    rw [isCommitted, isCommitted, readsFirst_isCanary.append l' h, List.take_append_of_le_length h]

/-- The counts of a search, added to a result. -/
def Result.counted (sha256 : Bytes → Bytes) (target : Bytes) (value : Result) (s : Bytes) : Result :=
  { value with
    candidates := value.candidates + countAt isCanary s
    matched := value.matched + countAt (isCommitted sha256 target) s }

/-- Positions without the prefix can be passed over. -/
lemma counted_drop {s : Bytes} {k : ℕ} (h : ∀ i < k, canaryPrefix.isPrefixOf (s.drop i) = false)
    (value : Result) :
    value.counted sha256 target s = value.counted sha256 target (s.drop k) := by
  have hcanary (i : ℕ) (hi : i < k) : isCanary (s.drop i) = false := by rw [isCanary, h i hi, Bool.false_and]
  have hcommitted (i : ℕ) (hi : i < k) : isCommitted sha256 target (s.drop i) = false := by
    rw [isCommitted, hcanary i hi, Bool.false_and]
  rw [Result.counted, countAt_drop hcanary, countAt_drop hcommitted]
  rfl

lemma counted_of_length_lt {s : Bytes} (h : s.length < plaintextLength) (value : Result) :
    value.counted sha256 target s = value := by
  rw [Result.counted, readsFirst_isCanary.countAt_of_length_lt h,
    readsFirst_isCommitted.countAt_of_length_lt h]
  rfl

lemma counted_of_index_eq_none {s : Bytes} (h : index s canaryPrefix = none) (value : Result) :
    value.counted sha256 target s = value := by
  have hskip (i : ℕ) (hi : i < s.length) : canaryPrefix.isPrefixOf (s.drop i) = false :=
    Bool.eq_false_iff.mpr (List.find?_eq_none.mp h i (List.mem_range.mpr hi))
  rw [counted_drop hskip, List.drop_length]
  rfl

lemma counted_of_index_eq_some {s : Bytes} {k : ℕ} (h : index s canaryPrefix = some k) (value : Result) :
    value.counted sha256 target s = value.counted sha256 target (s.drop k) :=
  counted_drop (fun i hi => by simpa using (List.find?_range_eq_some.mp h).2.2 i hi) value

/-- Counting the first position, where the prefix was found. -/
lemma counted_of_isPrefixOf {s : Bytes} (h : canaryPrefix.isPrefixOf s = true) (value : Result) :
    value.counted sha256 target s =
      (value.inspect sha256 target (s.take plaintextLength)).counted sha256 target (s.drop 1) := by
  cases s with
  | nil => exact absurd h (by decide)
  | cons a s =>
    rw [Result.counted, countAt_cons, countAt_cons, isCommitted, isCanary, h, Bool.true_and, Result.inspect]
    split <;> simp [Result.counted, *]
    omega

lemma inspectFrom_eq (window : Bytes) {completeStarts : ℕ}
    (hstarts : completeStarts = window.length + 1 - plaintextLength) (searchAt : ℕ) (value : Result) :
    inspectFrom sha256 target window completeStarts searchAt value =
      value.counted sha256 target (window.drop searchAt) := by
  have hshort {i : ℕ} (hi : completeStarts ≤ i) : (window.drop i).length < plaintextLength := by
    rw [List.length_drop]
    rw [plaintextLength_eq] at *
    omega
  fun_induction inspectFrom sha256 target window completeStarts searchAt value with
  | case1 _ _ _ hnone => exact (counted_of_index_eq_none hnone _).symm
  | case2 _ _ _ offset hsome start hend =>
    rw [counted_of_index_eq_some hsome, List.drop_drop, counted_of_length_lt (hshort hend)]
  | case3 searchAt value _ offset hsome start hend candidate ih =>
    have hat := (List.find?_range_eq_some.mp hsome).1
    rw [counted_of_index_eq_some hsome, counted_of_isPrefixOf hat, List.drop_drop, List.drop_drop]
    exact ih
  | case4 _ _ hend => exact (counted_of_length_lt (hshort (Nat.le_of_not_lt hend)) _).symm

lemma inspectCompleteCandidates_eq (window : Bytes) (value : Result) :
    inspectCompleteCandidates sha256 target window value =
      (window.rtake (plaintextLength - 1), value.counted sha256 target window) := by
  have hstarts : window.length - (plaintextLength - 1) = window.length + 1 - plaintextLength := by
    rw [plaintextLength_eq]
    omega
  rw [inspectCompleteCandidates, List.rtake, hstarts]
  split
  next hnone =>
    rw [hnone, counted_of_length_lt (by omega)]
    rfl
  next => rw [inspectFrom_eq window rfl, List.drop_zero]

/-! ### The state of the scan says what was read -/

/-- The variables of the scan when it has read the bytes. -/
def scanned (sha256 : Bytes → Bytes) (target : Bytes) (maxBytes : ℤ) (input : Bytes) : Scanning where
  n := maxBytes + 1 - input.length
  hashed := input
  window := input.rtake (plaintextLength - 1)
  value :=
    { inspectedBytes := input.length, candidates := countAt isCanary input
      matched := countAt (isCommitted sha256 target) input }

lemma scanned_nil (maxBytes : ℤ) : scanned sha256 target maxBytes [] = { n := maxBytes + 1 } := by
  rw [scanned, List.length_nil, Nat.cast_zero, sub_zero]
  rfl

lemma limitedRead_scanned {maxBytes : ℤ} {input data : Bytes} {err : Option ReaderError}
    (h : ((input ++ data).length : ℤ) ≤ maxBytes) :
    limitedRead (scanned sha256 target maxBytes input).n ⟨data, err⟩ = ⟨data, err⟩ := by
  rw [List.length_append] at h
  have hpos : ¬maxBytes + 1 - input.length ≤ 0 := by omega
  have htake : data.take (maxBytes + 1 - input.length).toNat = data := List.take_of_length_le (by omega)
  rw [limitedRead, scanned, if_neg hpos, htake]

lemma consume_scanned {maxBytes : ℤ} {input data : Bytes} (h : ((input ++ data).length : ℤ) ≤ maxBytes) :
    (scanned sha256 target maxBytes input).consume sha256 target maxBytes data =
      .ok (scanned sha256 target maxBytes (input ++ data)) := by
  have hcount {p : Bytes → Bool} (hp : ReadsFirst p plaintextLength) :
      countAt p input + countAt p (input.rtake (plaintextLength - 1) ++ data) = countAt p (input ++ data) :=
    (hp.countAt_window (by rw [plaintextLength_eq]; omega) input data).symm
  rw [List.length_append] at h
  simp only [Scanning.consume, scanned, inspectCompleteCandidates_eq, Result.counted]
  rw [if_neg (by omega), rtake_rtake_append, hcount readsFirst_isCanary, hcount readsFirst_isCommitted,
    List.length_append, Nat.cast_add, sub_sub]

/-- A reader that gives the rest of the input takes the scan to its end. -/
lemma scanLoop_delivers {maxBytes : ℤ} {answers : List Answer} {rest : Bytes} (hrest : Delivers answers rest)
    {input : Bytes} (h : ((input ++ rest).length : ℤ) ≤ maxBytes) :
    scanLoop sha256 target maxBytes answers (scanned sha256 target maxBytes input) =
      (scanned sha256 target maxBytes (input ++ rest), none) := by
  induction hrest generalizing input with
  | @last data _ =>
    rw [scanLoop, limitedRead_scanned h]
    by_cases hdata : data = []
    · simp [hdata]
    · simp [hdata, consume_scanned h]
  | @read data rest _ hne _ ih =>
    rw [← List.append_assoc] at h ⊢
    have hread : ((input ++ data).length : ℤ) ≤ maxBytes := by
      rw [List.length_append] at h
      omega
    rw [scanLoop, limitedRead_scanned hread]
    simp only [if_neg hne, consume_scanned hread]
    exact ih h

lemma validateReportConfig_eq_ok {config : ReportConfig} {kind : String}
    (h : validateReportConfig config = .ok kind) :
    0 < config.maxBytes ∧ config.maxBytes ≤ maxInputBytes ∧
      ∃ target, parseCommitment config.canaryCommitment = .ok target := by
  rw [validateReportConfig] at h
  split at h
  · cases h
  split at h
  · cases h
  next hbounds =>
    split at h
    · cases h
    next target htarget =>
      push Not at hbounds
      exact ⟨hbounds.2.2.1, hbounds.2.2.2, target, htarget⟩

/-- A scan whose configuration is valid counts the canaries of the whole input, and those with the
committed digest, whatever the pieces in which a reader gives the input. -/
theorem scan_counts (sha256 : Bytes → Bytes) {config : ReportConfig} {kind : String}
    (hconfig : validateReportConfig config = .ok kind) {input : Bytes}
    (hlength : (input.length : ℤ) ≤ config.maxBytes) {answers : List Answer} (hanswers : Delivers answers input) :
    ∃ target, parseCommitment config.canaryCommitment = .ok target ∧
      scan sha256 (some answers) config.maxBytes config.canaryCommitment =
        ({ inspectedBytes := input.length, inspectedSHA256 := sha256 input
           candidates := countAt isCanary input
           matched := countAt (isCommitted sha256 target) input }, none) := by
  obtain ⟨hpos, hmax, target, htarget⟩ := validateReportConfig_eq_ok hconfig
  have hwrap : Int.bmod (config.maxBytes + 1) (2 ^ 64) = config.maxBytes + 1 := by
    rw [maxInputBytes] at hmax
    exact Int.bmod_eq_of_le (by omega) (by omega)
  have hrun : scanLoop sha256 target config.maxBytes answers (scanned sha256 target config.maxBytes []) =
      (scanned sha256 target config.maxBytes input, none) := scanLoop_delivers hanswers hlength
  rw [scanned_nil] at hrun
  refine ⟨target, htarget, ?_⟩
  simp only [scan, htarget, if_neg (not_le.mpr hpos), hwrap, hrun]
  rfl

/-- A canary that lies across two reads. -/
theorem scan_counts_split :
    scan (fun _ => List.replicate 32 0)
        (some [⟨canaryPrefix ++ List.replicate 9 97, none⟩, ⟨List.replicate 40 97, some .eof⟩]) 128
        "sha256:0000000000000000000000000000000000000000000000000000000000000000" =
      ({ inspectedBytes := 70, inspectedSHA256 := List.replicate 32 0, candidates := 1, matched := 1 }, none) := by
  have hconfig : validateReportConfig ⟨"sandbox-logs", "00000000000000000000000000000000", "r",
      "sha256:0000000000000000000000000000000000000000000000000000000000000000", 128⟩ = .ok "sandbox" := by
    decide +kernel
  have hanswers : Delivers [⟨canaryPrefix ++ List.replicate 9 97, none⟩, ⟨List.replicate 40 97, some .eof⟩]
      (canaryPrefix ++ List.replicate 9 97 ++ List.replicate 40 97) := .read (by decide) .last
  obtain ⟨target, htarget, hscan⟩ :=
    scan_counts (fun _ => List.replicate 32 0) hconfig (by decide +kernel) hanswers
  have hzero : parseCommitment
      "sha256:0000000000000000000000000000000000000000000000000000000000000000" =
      .ok (List.replicate 32 0) := by decide +kernel
  cases htarget.symm.trans hzero
  rw [hscan]
  decide +kernel

end DataGround.Security
