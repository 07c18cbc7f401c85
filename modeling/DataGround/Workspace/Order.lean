import DataGround.Workspace.Containment
import Mathlib.Data.Finmap

/-!
# The order of the headers

`Inspect` reads the headers of an archive one after the other into a map, inserts the parents of the
names of this map while it ranges over them, and ranges over it once more for the links.  Neither the
order of the headers nor that of a range over a map makes a difference: the steps of both loops
commute (`commutes_next`, `commutes_addParent`), although their limits are checked on the map as it
grows.

`RangeOrder` is an order in which a range may go through a map, and `inspectIn` is `Inspect` with its
two ranges in such orders.
-/

namespace DataGround.Workspace

open SlashPath Checks

/-! ### Maps -/

variable {entries other : Entries} {name : String} {entry : SourceEntry}

section Congruence

variable (h : entries.toFinmap = other.toFinmap)

include h

lemma lookup_congr (name : String) : entries.lookup name = other.lookup name := by
  rw [← Finmap.lookup_toFinmap, h, Finmap.lookup_toFinmap]

lemma mem_congr : name ∈ entries ↔ name ∈ other := by
  rw [← Finmap.mem_toFinmap, h, Finmap.mem_toFinmap]

lemma size_congr : Table.size entries = Table.size other :=
  (Table.keys_perm_of_lookup_eq (lookup_congr h)).length_eq

lemma insert_congr : (entries.insert name entry).toFinmap = (other.insert name entry).toFinmap := by
  rw [← Finmap.insert_toFinmap, h, Finmap.insert_toFinmap]

end Congruence

lemma insert_swap {name' : String} {entry' : SourceEntry} (hne : name ≠ name') :
    ((entries.insert name entry).insert name' entry').toFinmap =
      ((entries.insert name' entry').insert name entry).toFinmap :=
  AList.toFinmap_eq.mpr (AList.insert_insert_of_ne entries hne)

/-! ### Headers -/

/-- An entry that fits in the budget is the same before and after others. -/
lemma TarItem.entry_of_budget {item : TarItem} {sourceBytes sourceBytes' : ℕ}
    (h : item.entry name sourceBytes = .ok entry)
    (hbudget : sourceBytes' + entry.content.length ≤ maximumSourceBytes) :
    item.entry name sourceBytes' = .ok entry := by
  have hfile : item.fileEntry name sourceBytes = .ok entry →
      item.fileEntry name sourceBytes' = .ok entry := by
    intro h
    obtain ⟨_, hcontent, hlength, -, rfl⟩ := fileEntry_eq_ok h
    dsimp only at hbudget
    rw [TarItem.fileEntry, require_of_true ⟨by omega, by omega⟩, hcontent]
    exact require_of_true hlength
  unfold TarItem.entry at h ⊢
  split at h
  · exact hfile h
  · exact hfile h
  all_goals exact h

namespace Reading

variable {reading : Reading}

/-- What a reading amounts to, whatever the order of its entries is. -/
def view (reading : Reading) : ℕ × Finmap (fun _ : String => SourceEntry) × ℕ :=
  (reading.headers, reading.entries.toFinmap, reading.sourceBytes)

lemma next_views {again next : Reading} {item : TarItem} (h : reading.view = again.view)
    (hnext : reading.next item = .ok next) :
    ∃ next', again.next item = .ok next' ∧ next.view = next'.view := by
  obtain ⟨_, _, _⟩ := reading
  obtain ⟨_, _, _⟩ := again
  simp only [view, Prod.mk.injEq] at h
  obtain ⟨rfl, hentries, rfl⟩ := h
  obtain ⟨⟨hheaders, hsize⟩, hitem⟩ := next_iff.mp hnext
  rcases hitem with ⟨hglobal, hrecords, rfl⟩ | ⟨name, entry, hnames, hnew, hentry, rfl⟩
  · exact ⟨_, next_iff.mpr ⟨⟨hheaders, size_congr hentries ▸ hsize⟩,
      .inl ⟨hglobal, hrecords, rfl⟩⟩, by simp only [view, hentries]⟩
  · exact ⟨_, next_iff.mpr ⟨⟨hheaders, size_congr hentries ▸ hsize⟩,
      .inr ⟨name, entry, hnames, mt (mem_congr hentries).mpr hnew, hentry, rfl⟩⟩,
      by simp only [view, insert_congr hentries]⟩

/-- Two headers can be exchanged. -/
lemma next_swap {a b : TarItem} {t u : Reading} (hsound : reading.Sound)
    (ha : reading.next a = .ok t) (hb : t.next b = .ok u) :
    ∃ t' u', reading.next b = .ok t' ∧ t'.next a = .ok u' ∧ u.view = u'.view := by
  have hcount := hsound.count
  obtain ⟨hlimits, ha⟩ := next_iff.mp ha
  obtain ⟨⟨hheaders, hsize⟩, hb⟩ := next_iff.mp hb
  rcases ha with ⟨hglobal, hrecords, rfl⟩ | ⟨name, entry, hnames, hnew, hentry, rfl⟩
  · rcases hb with ⟨hglobal', hrecords', rfl⟩ | ⟨name', entry', hnames', hnew', hentry', rfl⟩
    · exact ⟨_, _, next_iff.mpr ⟨hlimits, .inl ⟨hglobal', hrecords', rfl⟩⟩,
        next_iff.mpr ⟨⟨hheaders, hsize⟩, .inl ⟨hglobal, hrecords, rfl⟩⟩, rfl⟩
    · refine ⟨_, _, next_iff.mpr ⟨hlimits, .inr ⟨name', entry', hnames', hnew', hentry', rfl⟩⟩,
        next_iff.mpr ⟨⟨hheaders, ?_⟩, .inl ⟨hglobal, hrecords, rfl⟩⟩, rfl⟩
      -- there are no more entries than headers
      rw [Table.size_insert_of_notMem hnew']
      exact (Nat.succ_le_succ hcount).trans_lt hheaders
  · rcases hb with ⟨hglobal', hrecords', rfl⟩ | ⟨name', entry', hnames', hnew', hentry', rfl⟩
    · exact ⟨_, _, next_iff.mpr ⟨hlimits, .inl ⟨hglobal', hrecords', rfl⟩⟩,
        next_iff.mpr ⟨⟨hheaders, hlimits.2⟩, .inr ⟨name, entry, hnames, hnew, hentry, rfl⟩⟩, rfl⟩
    · rw [AList.mem_insert, not_or] at hnew'
      have hbudget := (TarItem.fits_of_entry hnames.1 hsound.budget hentry).budget
      have hbudget' := (TarItem.fits_of_entry hnames'.1 hbudget hentry').budget
      refine ⟨_, _, next_iff.mpr ⟨hlimits, .inr ⟨name', entry', hnames', hnew'.2,
        TarItem.entry_of_budget hentry' (by omega), rfl⟩⟩,
        next_iff.mpr ⟨⟨hheaders, ?_⟩, .inr ⟨name, entry, hnames, ?_,
          TarItem.entry_of_budget hentry (by dsimp only; omega), rfl⟩⟩, ?_⟩
      · rw [Table.size_insert_of_notMem hnew] at hsize
        rw [Table.size_insert_of_notMem hnew'.2]
        exact hsize
      · rw [AList.mem_insert, not_or]
        exact ⟨Ne.symm hnew'.1, hnew⟩
      · simp only [view, insert_swap (Ne.symm hnew'.1), Nat.add_right_comm]

lemma commutes_next : Commutes Sound view next :=
  ⟨fun _ _ _ hs h => hs.next h, fun _ _ _ _ hs h => next_views hs h,
    fun _ _ _ _ _ hs ha hb => next_swap hs ha hb⟩

end Reading

/-! ### Parents -/

lemma addParent_views {next : Entries} {parent : String} (h : entries.toFinmap = other.toFinmap)
    (hnext : addParent entries parent = .ok next) :
    ∃ next', addParent other parent = .ok next' ∧ next.toFinmap = next'.toFinmap := by
  obtain ⟨entry, hentry, hkind, rfl⟩ | ⟨hnew, hsize, rfl⟩ := addParent_iff.mp hnext
  · exact ⟨_, addParent_iff.mpr (.inl ⟨entry, lookup_congr h _ ▸ hentry, hkind, rfl⟩), h⟩
  · exact ⟨_, addParent_iff.mpr (.inr ⟨mt (mem_congr h).mpr hnew, size_congr h ▸ hsize, rfl⟩),
      insert_congr h⟩

/-- Two parents can be exchanged. -/
lemma addParent_swap {p q : String} {t u : Entries} (hp : addParent entries p = .ok t)
    (hq : addParent t q = .ok u) :
    ∃ t' u', addParent entries q = .ok t' ∧ addParent t' p = .ok u' ∧ u.toFinmap = u'.toFinmap := by
  by_cases hpq : p = q
  · subst hpq
    exact ⟨t, u, hp, hq, rfl⟩
  obtain ⟨entry, hentry, hkind, rfl⟩ | ⟨hnew, hsize, rfl⟩ := addParent_iff.mp hp
  · obtain ⟨entry', hentry', hkind', rfl⟩ | ⟨hnew', hsize', rfl⟩ := addParent_iff.mp hq
    · exact ⟨_, _, hq, hp, rfl⟩
    · refine ⟨_, _, hq, addParent_iff.mpr (.inl ⟨entry, ?_, hkind, rfl⟩), rfl⟩
      rw [AList.lookup_insert_ne hpq, hentry]
  · obtain ⟨entry', hentry', hkind', rfl⟩ | ⟨hnew', hsize', rfl⟩ := addParent_iff.mp hq
    · rw [AList.lookup_insert_ne (Ne.symm hpq)] at hentry'
      exact ⟨_, _, addParent_iff.mpr (.inl ⟨entry', hentry', hkind', rfl⟩), hp, rfl⟩
    · rw [AList.mem_insert, not_or] at hnew'
      rw [Table.size_insert_of_notMem hnew] at hsize'
      refine ⟨_, _, addParent_iff.mpr (.inr ⟨hnew'.2, hsize, rfl⟩),
        addParent_iff.mpr (.inr ⟨?_, ?_, rfl⟩), insert_swap hpq⟩
      · rw [AList.mem_insert, not_or]
        exact ⟨hpq, hnew⟩
      · rw [Table.size_insert_of_notMem hnew'.2]
        exact hsize'

lemma commutes_addParent : Commutes (fun _ => True) AList.toFinmap addParent :=
  ⟨fun _ _ _ _ _ => trivial, fun _ _ _ _ hs h => addParent_views hs h,
    fun _ _ _ _ _ _ hp hq => addParent_swap hp hq⟩

/-! ### Links -/

lemma resolveLink_congr (h : ∀ name, entries.lookup name = other.lookup name) (turns : ℕ)
    (seen resolved pending : List String) :
    resolveLink entries turns seen resolved pending =
      resolveLink other turns seen resolved pending := by
  induction turns generalizing seen resolved pending with
  | zero => cases pending <;> rfl
  | succ _ ih =>
    cases pending with
    | nil => rfl
    | cons => simp only [resolveLink, h, ih]

/-! ### Inspection -/

/-- An order in which a range goes through the entries of a map. -/
structure RangeOrder where
  order : List ((_ : String) × SourceEntry) → List ((_ : String) × SourceEntry)
  perm : ∀ entries, (order entries).Perm entries

/-- `Inspect`, with the orders of the range that inserts parents and of the one that checks links. -/
def inspectIn (parents links : RangeOrder) (library : SourceLibrary) (archive : Bytes)
    (expectedDigest : String) : Except WorkspaceError Snapshot := do
  require (archive.length ≤ maximumArchiveBytes ∧ 1024 ≤ archive.length ∧ archive.length % 512 = 0)
    .sourceInvalid
  let digest := workspaceDigest library archive
  require (digest = expectedDigest) .sourceInvalid
  let stream := library.readTar archive
  let reading ← stream.items.foldlM Reading.next {}
  require (stream.ending.any (endsInZeros archive)) .sourceInvalid
  let entries ← (parentNames ((parents.order reading.entries.entries).map Sigma.fst)).foldlM
    addParent reading.entries
  require ((links.order entries.entries).all fun entry =>
    entry.2.kind ≠ .symlink || containedLink entries entry.2) .sourceInvalid
  let names := sortedNames entries
  return { archive, entries, names
           receipt :=
            { schemaVersion := "dataground.workspace-source-materialization/v1"
              archiveDigest := digest, entryCount := names.length
              sourceBytes := reading.sourceBytes } }

/-- One run of `Inspect` ranges over the maps in the order of their lists. -/
lemma inspectIn_self : inspectIn ⟨id, .refl⟩ ⟨id, .refl⟩ = inspect :=
  rfl

/-- The archive is of an acceptable size, has the digest, and ends as it should. -/
def Framed (library : SourceLibrary) (archive : Bytes) (digest : String) : Prop :=
  (archive.length ≤ maximumArchiveBytes ∧ 1024 ≤ archive.length ∧ archive.length % 512 = 0) ∧
    workspaceDigest library archive = digest ∧
    (library.readTar archive).ending.any (endsInZeros archive) = true

section

variable {library : SourceLibrary} {archive archive' : Bytes} {digest digest' : String}
  {parents links parents' links' : RangeOrder} {map : Finmap fun _ : String => SourceEntry}

/-- What an inspection with these entries has gone through. -/
lemma inspectIn_iff :
    (∃ snapshot, inspectIn parents links library archive digest = .ok snapshot ∧
      snapshot.entries.toFinmap = map) ↔
    Framed library archive digest ∧
      ∃ reading, (library.readTar archive).items.foldlM Reading.next {} = .ok reading ∧
      ∃ entries, (parentNames ((parents.order reading.entries.entries).map Sigma.fst)).foldlM
        addParent reading.entries = .ok entries ∧
      ((links.order entries.entries).all fun entry =>
        entry.2.kind ≠ .symlink || containedLink entries entry.2) = true ∧
      entries.toFinmap = map := by
  unfold inspectIn
  simp only [bind_eq_ok, require_eq_ok, exists_const]
  constructor
  · rintro ⟨snapshot, ⟨hlength, hdigest, reading, hread, hending, entries, hparents, hlinks, h⟩, hmap⟩
    cases h
    exact ⟨⟨hlength, hdigest, hending⟩, reading, hread, entries, hparents, hlinks, hmap⟩
  · rintro ⟨⟨hlength, hdigest, hending⟩, reading, hread, entries, hparents, hlinks, hmap⟩
    exact ⟨_, ⟨hlength, hdigest, reading, hread, hending, entries, hparents, hlinks, rfl⟩, hmap⟩

/-- With its headers and its ranges in other orders, an archive leads to the same entries. -/
lemma inspectIn_of_perm (hframed : Framed library archive digest → Framed library archive' digest')
    (hitems : (library.readTar archive).items.Perm (library.readTar archive').items)
    (h : ∃ snapshot, inspectIn parents links library archive digest = .ok snapshot ∧
      snapshot.entries.toFinmap = map) :
    ∃ snapshot, inspectIn parents' links' library archive' digest' = .ok snapshot ∧
      snapshot.entries.toFinmap = map := by
  obtain ⟨hframe, reading, hread, entries, hparents, hlinks, rfl⟩ := inspectIn_iff.mp h
  obtain ⟨reading', hread', hview⟩ :=
    Reading.commutes_next.foldlM_perm hitems Reading.sound_initial hread
  have hsame : reading.entries.toFinmap = reading'.entries.toFinmap :=
    congrArg (·.2.1) hview
  have hnames : (parentNames ((parents.order reading.entries.entries).map Sigma.fst)).Perm
      (parentNames ((parents'.order reading'.entries.entries).map Sigma.fst)) :=
    List.Perm.flatMap_right _ (((parents.perm _).trans ((AList.toFinmap_eq.mp hsame).trans
      (parents'.perm _).symm)).map _)
  obtain ⟨_, hmiddle, hsame₁⟩ := commutes_addParent.foldlM_perm hnames trivial hparents
  obtain ⟨entries', hparents', hsame₂⟩ := commutes_addParent.foldlM_views hsame hmiddle
  have hentries := hsame₁.trans hsame₂
  refine inspectIn_iff.mpr ⟨hframed hframe, reading', hread', entries', hparents', ?_, hentries.symm⟩
  simp only [containedLink, resolveLink_congr (lookup_congr hentries)] at hlinks
  rw [← hlinks]
  exact (((links.perm _).trans ((AList.toFinmap_eq.mp hentries).trans (links'.perm _).symm)).all_eq).symm

end

/-- **Acceptance and the entries depend on the headers, not on an order.**  Two archives with the same
headers in any order, both or neither of them well framed, are accepted or refused together, with the
same entries, whatever the orders of the ranges over maps are. -/
theorem inspect_order_independent (library : SourceLibrary) (parents links parents' links' : RangeOrder)
    (archive archive' : Bytes) (digest digest' : String)
    (hframed : Framed library archive digest ↔ Framed library archive' digest')
    (hitems : (library.readTar archive).items.Perm (library.readTar archive').items) :
    (inspectIn parents links library archive digest).toOption.map (·.entries.toFinmap) =
      (inspectIn parents' links' library archive' digest').toOption.map (·.entries.toFinmap) := by
  refine Option.ext fun map => ?_
  simp only [Option.map_eq_some_iff, toOption_eq_some]
  exact ⟨inspectIn_of_perm hframed.mp hitems, inspectIn_of_perm hframed.mpr hitems.symm⟩

/-- A tar reader that finds the two entries in an order which depends on the length of the archive. -/
def eitherOrder : SourceLibrary where
  readTar archive :=
    { twoEntries.readTar [] with
      items := if archive.length = 1024 then (twoEntries.readTar []).items
        else (twoEntries.readTar []).items.reverse }
  sha256Hex _ := ""

/-- The archive with the link is accepted with its headers and its ranges reversed as well. -/
theorem inspect_order_independent_reversed :
    (inspectIn ⟨id, .refl⟩ ⟨id, .refl⟩ eitherOrder (List.replicate 1024 0) "sha256:").toOption.isSome =
      true ∧
    (inspectIn ⟨id, .refl⟩ ⟨id, .refl⟩ eitherOrder (List.replicate 1024 0) "sha256:").toOption.map
        (·.entries.toFinmap) =
      (inspectIn ⟨List.reverse, List.reverse_perm⟩ ⟨List.reverse, List.reverse_perm⟩ eitherOrder
        (List.replicate 1536 0) "sha256:").toOption.map (·.entries.toFinmap) := by
  refine ⟨by decide +kernel, inspect_order_independent _ _ _ _ _ _ _ _ _ (iff_of_true ?_ ?_) ?_⟩
  · unfold Framed
    decide +kernel
  · unfold Framed
    decide +kernel
  · simp only [eitherOrder, List.length_replicate, if_true]
    rw [if_neg (by decide)]
    exact (List.reverse_perm _).symm

end DataGround.Workspace
