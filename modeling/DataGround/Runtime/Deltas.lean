import DataGround.Base.JsonText
import DataGround.Codex.Client
import DataGround.Persistence.Usage
import DataGround.Runtime.Output

/-!
# From a delta of the runtime to the journal

The adapter bounds the bytes of a delta, the driver makes the text storable, and the journal bounds
the bytes of its encoding.  The encoding writes some characters of one byte as six, so the first
bound does not give the last.
-/

namespace DataGround

def maximumInlineMessageTextBytes : ℕ := 65536

/-- The bytes of characters in UTF-8. -/
def byteCount (text : List Char) : ℕ :=
  (text.map Char.utf8Size).sum

/-- The whole characters within the first bytes of a text. -/
def wholeCharacters : ℕ → List Char → List Char
  | _, [] => []
  | maximum, c :: text =>
    if c.utf8Size ≤ maximum then c :: wholeCharacters (maximum - c.utf8Size) text else []

/-- `truncateTextPreview`; the bytes of a character that was cut are dropped. -/
def truncateTextPreview (text : List Char) (maximum : ℕ) : List Char :=
  if byteCount text ≤ maximum then text else wholeCharacters maximum text

/-- A character in the text of a preview. -/
def replaceNul (c : Char) : List Char :=
  if c.toNat = 0 then ['\\', 'u', '0', '0', '0', '0'] else [c]

def runtimeTextPreview (text : List Char) (maximum : ℕ) : List Char :=
  truncateTextPreview ((truncateTextPreview text maximum).flatMap replaceNul) maximum

def messageDeltaPreview (text : String) : String :=
  String.ofList (runtimeTextPreview text.toList maximumInlineMessageTextBytes)

/-- The payload of a delta. -/
def deltaPayload (text : String) : Members :=
  .cons "text" (.string text) .nil

/-- The case `output.text.delta` of `recordRuntimeOutput`: what it hands to the journal. -/
def recordRuntimeDelta (event : RuntimeEvent) : Option Writer.InvocationRuntimeEvent :=
  match event.payload with
  | .cons "text" (.string text) .nil =>
    if byteCount text.toList ≤ maximumInlineMessageTextBytes then
      some ⟨event.sequence, event.eventType, some (.object (deltaPayload (messageDeltaPreview text)))⟩
    else none
  | _ => none

/-- What `json.Marshal` makes of the payload of a delta. -/
def encodedDelta (text : String) : List Char :=
  ['\x7b', '"', 't', 'e', 'x', 't', '"', ':'] ++ (quoted text ++ ['\x7d'])

/-- The journal measures payloads by their encoding. -/
def RuntimeEnvironment.MeasuresDeltas (env : RuntimeEnvironment) : Prop :=
  ∀ text, env.encodedLength (.object (deltaPayload text)) = byteCount (encodedDelta text)

/-! ### Sizes -/

@[simp] lemma byteCount_append (text text' : List Char) :
    byteCount (text ++ text') = byteCount text + byteCount text' := by
  simp [byteCount]

@[simp] lemma byteCount_cons (c : Char) (text : List Char) :
    byteCount (c :: text) = c.utf8Size + byteCount text := by
  simp [byteCount]

lemma utf8ByteSize_eq_byteCount (text : String) : text.utf8ByteSize = byteCount text.toList := by
  have hlist : ∀ cs : List Char, (String.ofList cs).utf8ByteSize = byteCount cs := by
    intro cs
    induction cs with
    | nil => rfl
    | cons _ _ ih =>
      rw [String.ofList_cons, String.utf8ByteSize_append, String.utf8ByteSize_singleton, ih,
        byteCount_cons]
  rw [← hlist, String.ofList_toList]

lemma byteCount_flatMap_le {f : Char → List Char} {n : ℕ}
    (h : ∀ c, byteCount (f c) ≤ n * c.utf8Size) (text : List Char) :
    byteCount (text.flatMap f) ≤ n * byteCount text := by
  induction text with
  | nil => exact Nat.zero_le _
  | cons c =>
    have hc := h c
    rw [List.flatMap_cons, byteCount_append, byteCount_cons, Nat.mul_add]
    omega

lemma byteCount_flatMap_replicate (f : Char → List Char) (n : ℕ) (c : Char) :
    byteCount ((List.replicate n c).flatMap f) = n * byteCount (f c) := by
  induction n with
  | zero => rw [Nat.zero_mul]; rfl
  | succ _ ih => rw [List.replicate_succ, List.flatMap_cons, byteCount_append, ih]; ring

lemma byteCount_encodedDelta (text : String) :
    byteCount (encodedDelta text) = byteCount (text.toList.flatMap escape) + 11 := by
  have hname : byteCount ['\x7b', '"', 't', 'e', 'x', 't', '"', ':'] = 8 := by decide
  have hquote : byteCount ['"'] = 1 := by decide
  have hend : byteCount ['\x7d'] = 1 := by decide
  simp only [encodedDelta, quoted, byteCount_append, hname, hquote, hend]
  omega

lemma utf8Size_hexDigit {n : ℕ} (h : n < 16) : (hexDigit n).utf8Size = 1 := by
  interval_cases n <;> decide

/-- No character is written with more than six bytes for each of its own. -/
lemma byteCount_escape_le (c : Char) : byteCount (escape c) ≤ 6 * c.utf8Size := by
  have hsix : 6 ≤ 6 * c.utf8Size := Nat.le_mul_of_pos_right 6 c.utf8Size_pos
  have hdigits : byteCount [hexDigit (c.toNat % 16)] = 1 := by
    rw [byteCount_cons, utf8Size_hexDigit (Nat.mod_lt _ (by decide))]
    rfl
  unfold escape
  split_ifs with hquote hb hf hn hr ht hcontrol
  · rcases hquote with rfl | rfl <;> decide
  iterate 5 exact le_trans (by decide) hsix
  · have hsmall : c.toNat < 0x40 := by
      rcases hcontrol with h | rfl | rfl | rfl
      · omega
      all_goals decide
    have hstart : byteCount ['\\', 'u', '0', '0'] = 4 := by decide
    refine le_trans (le_of_eq ?_) hsix
    calc
      _ = byteCount (['\\', 'u', '0', '0'] ++
            (hexDigit (c.toNat / 16) :: [hexDigit (c.toNat % 16)])) := rfl
      _ = 4 + (1 + 1) := by
        rw [byteCount_append, hstart, byteCount_cons, hdigits, utf8Size_hexDigit (by omega)]
  · have hstart : byteCount ['\\', 'u', '2', '0', '2'] = 5 := by decide
    refine le_trans (le_of_eq ?_) hsix
    calc
      _ = byteCount (['\\', 'u', '2', '0', '2'] ++ [hexDigit (c.toNat % 16)]) := rfl
      _ = 5 + 1 := by rw [byteCount_append, hstart, hdigits]
  · rw [byteCount_cons, show byteCount [] = 0 from rfl]
    omega

lemma byteCount_wholeCharacters_le (f : Char → List Char) (maximum : ℕ) (text : List Char) :
    byteCount ((wholeCharacters maximum text).flatMap f) ≤ byteCount (text.flatMap f) := by
  induction text generalizing maximum with
  | nil => rw [wholeCharacters]
  | cons _ _ ih =>
    rw [wholeCharacters]
    split
    · rw [List.flatMap_cons, List.flatMap_cons, byteCount_append, byteCount_append]
      exact Nat.add_le_add_left (ih _) _
    · exact Nat.zero_le _

/-- A null byte is written with seven bytes, as its replacement has a backslash. -/
lemma byteCount_escape_replaceNul_le (c : Char) :
    byteCount ((replaceNul c).flatMap escape) ≤ 7 * c.utf8Size := by
  have hpos := c.utf8Size_pos
  unfold replaceNul
  split
  · exact le_trans (show byteCount (['\\', 'u', '0', '0', '0', '0'].flatMap escape) ≤ 7 by decide)
      (by omega)
  · have hc := byteCount_escape_le c
    rw [List.flatMap_singleton]
    omega

/-- **How much longer than a delta its encoding is.** -/
lemma byteCount_escape_preview_le {text : String}
    (h : byteCount text.toList ≤ maximumInlineMessageTextBytes) :
    byteCount ((messageDeltaPreview text).toList.flatMap escape) ≤ 7 * byteCount text.toList := by
  have hreplaced : byteCount ((text.toList.flatMap replaceNul).flatMap escape) ≤
      7 * byteCount text.toList := by
    rw [List.flatMap_assoc]
    exact byteCount_flatMap_le byteCount_escape_replaceNul_le _
  rw [messageDeltaPreview, String.toList_ofList, runtimeTextPreview,
    show truncateTextPreview text.toList maximumInlineMessageTextBytes = text.toList from if_pos h,
    truncateTextPreview]
  split
  · exact hreplaced
  · exact (byteCount_wholeCharacters_le escape _ _).trans hreplaced

/-- A text without null bytes is its own preview. -/
lemma messageDeltaPreview_eq_self {text : String}
    (h : byteCount text.toList ≤ maximumInlineMessageTextBytes) (hnul : ∀ c ∈ text.toList, c.toNat ≠ 0) :
    messageDeltaPreview text = text := by
  have hsame : text.toList.flatMap replaceNul = text.toList := by
    have hone : text.toList.flatMap replaceNul = text.toList.flatMap fun c => [c] :=
      List.flatMap_congr fun c hc => if_neg (hnul c hc)
    rw [hone, List.flatMap_singleton']
  have htruncated : truncateTextPreview text.toList maximumInlineMessageTextBytes = text.toList :=
    if_pos h
  rw [messageDeltaPreview, runtimeTextPreview, htruncated, hsame, htruncated, String.ofList_toList]

/-! ### Deltas in the journal -/

/-- The event of a delta. -/
def deltaEvent (sequence : ℕ) (text : String) : RuntimeEvent :=
  ⟨"output.text.delta", sequence, deltaPayload text⟩

lemma recordRuntimeDelta_eq {text : String} (sequence : ℕ)
    (h : byteCount text.toList ≤ maximumInlineMessageTextBytes) :
    recordRuntimeDelta (deltaEvent sequence text) = some ⟨sequence, "output.text.delta",
      some (.object (deltaPayload (messageDeltaPreview text)))⟩ :=
  if_pos h

lemma validatedPayload_delta {env : RuntimeEnvironment} (henv : env.MeasuresDeltas) {sequence : ℕ}
    (hsequence : sequence ≠ 0) (text : String) :
    (Writer.validatedPayload env ⟨sequence, "output.text.delta",
      some (.object (deltaPayload text))⟩).isSome ↔
      byteCount (text.toList.flatMap escape) ≤ 262133 := by
  have htype : Writer.eventTypeMatches "output.text.delta" = true := by decide
  have hsize : "output.text.delta".utf8ByteSize ≤ 128 := by decide
  have hcompleted : "output.text.delta" ∉ Writer.completedEvents := by decide
  have hparsed : "output.text.delta" ∉ Writer.parsedEvents := by decide
  simp only [Writer.validatedPayload, henv text, byteCount_encodedDelta]
  split
  · rename_i hvalid
    have hbound : _ ≤ 262144 := hvalid.2.2.2.2.1
    exact ⟨fun _ => by omega, fun _ => rfl⟩
  · rename_i hinvalid
    refine ⟨nofun, fun hbound => (hinvalid ⟨hsequence, by decide, hsize, htype, ?_, hcompleted,
      fun h => (hparsed h).elim⟩).elim⟩
    exact show _ ≤ 262144 by omega

/-- **Which deltas get through.**  A delta of at most 64 KiB of the active turn is emitted by the
adapter and handed on by the driver.  The journal takes it exactly if the preview of its text, as
JSON writes it, has at most 262133 bytes; a text of at most 37447 bytes always has. -/
theorem delta_recorded_iff (env : RuntimeEnvironment) (henv : env.MeasuresDeltas) (text : String)
    (hsize : byteCount text.toList ≤ maximumInlineMessageTextBytes)
    (sequence : ℕ) (hsequence : sequence ≠ 0) :
    (∀ (libraries : Codex.CodexLibraries) (message : Codex.WireMessage) (threadId turnId : String),
      libraries.decodeDelta message.params = some ⟨threadId, turnId, text⟩ →
      Codex.handleDelta libraries message = (do
        if (← Codex.reading (Codex.Client.matchesActiveTurn threadId turnId)) = false then
          Codex.fail (.protocol "agent message scope does not match")
        else Codex.publish libraries .textDelta (.object (deltaPayload text)))) ∧
    ∃ recorded, recordRuntimeDelta (deltaEvent sequence text) = some recorded ∧
      ((Writer.validatedPayload env recorded).isSome ↔
        byteCount ((messageDeltaPreview text).toList.flatMap escape) ≤ 262133) ∧
      (byteCount text.toList ≤ 37447 → (Writer.validatedPayload env recorded).isSome) := by
  have hiff := validatedPayload_delta henv hsequence (messageDeltaPreview text)
  refine ⟨fun libraries message threadId turnId hparams => ?_, _, recordRuntimeDelta_eq sequence hsize, hiff,
    fun hsmall => hiff.mpr ?_⟩
  · rw [Codex.handleDelta, hparams]
    have hbytes : ¬65536 < text.utf8ByteSize := by
      rw [utf8ByteSize_eq_byteCount]
      exact Nat.not_lt.mpr hsize
    simp only [if_neg hbytes]
    rfl
  · have hle := byteCount_escape_preview_le hsize
    omega

namespace Scenario

/-- Payloads of deltas have the length of their encoding. -/
def deltaEnv : RuntimeEnvironment :=
  { usageEnv with
    encodedLength := fun payload => match payload with
      | .object (.cons "text" (.string text) .nil) => byteCount (encodedDelta text)
      | _ => 0 }

lemma measuresDeltas : deltaEnv.MeasuresDeltas :=
  fun _ => rfl

/-- A delta of brackets. -/
def brackets (n : ℕ) : String :=
  String.ofList (List.replicate n '<')

lemma byteCount_brackets (n : ℕ) : byteCount (brackets n).toList = n := by
  have hone : byteCount ['<'] = 1 := by decide
  have hcount := byteCount_flatMap_replicate (fun c => [c]) n '<'
  rw [List.flatMap_singleton', hone, Nat.mul_one] at hcount
  rwa [brackets, String.toList_ofList]

lemma byteCount_escape_brackets (n : ℕ) : byteCount ((brackets n).toList.flatMap escape) = n * 6 := by
  have hsix : byteCount (escape '<') = 6 := by decide
  rw [brackets, String.toList_ofList, byteCount_flatMap_replicate, hsix]

end Scenario

open Scenario

/-- A delta of 45000 bytes whose encoding has 270011: the driver hands it on, and the journal does
not take it. -/
theorem delta_refused :
    byteCount (brackets 45000).toList ≤ maximumInlineMessageTextBytes ∧
    deltaEnv.MeasuresDeltas ∧
    ∃ recorded, recordRuntimeDelta (deltaEvent 1 (brackets 45000)) = some recorded ∧
      Writer.validatedPayload deltaEnv recorded = none := by
  obtain ⟨n, hn⟩ : ∃ n, n = 45000 := ⟨_, rfl⟩
  rw [← hn]
  have hsize : byteCount (brackets n).toList ≤ maximumInlineMessageTextBytes := by
    rw [byteCount_brackets, hn]
    decide
  refine ⟨hsize, measuresDeltas, _, recordRuntimeDelta_eq 1 hsize, ?_⟩
  have hpreview : messageDeltaPreview (brackets n) = brackets n := by
    refine messageDeltaPreview_eq_self hsize fun c hc => ?_
    rw [brackets, String.toList_ofList] at hc
    rw [List.eq_of_mem_replicate hc]
    decide
  rw [← Option.not_isSome_iff_eq_none]
  intro haccepted
  have hbound := (validatedPayload_delta measuresDeltas Nat.one_ne_zero _).mp haccepted
  rw [hpreview, byteCount_escape_brackets] at hbound
  omega

/-- A short delta gets through. -/
theorem delta_recorded_short : ∃ recorded,
    recordRuntimeDelta (deltaEvent 1 "<p>") = some recorded ∧
      (Writer.validatedPayload deltaEnv recorded).isSome := by
  obtain ⟨-, recorded, hrecorded, -, hshort⟩ :=
    delta_recorded_iff deltaEnv measuresDeltas "<p>" (by decide) 1 (by decide)
  exact ⟨recorded, hrecorded, hshort (by decide)⟩

end DataGround
