import DataGround.Library.PathWalk
import DataGround.Workspace.Source

/-!
# What an inspected source contains

Every snapshot that `Inspect` returns is a tree that can be written below one root: the parents of an
entry are directories of the snapshot, names are clean, and each symbolic link resolves, by the rules
of POSIX pathname resolution over these entries, to the root or to an entry.

The argument follows the function.  The loop over the headers keeps `Reading.Sound`, the loop over the
parents leaves entries that are `Closed`, and over such entries the bounded loop of `containedLink` is
a walk: `walk_of_resolveLink`.
-/

namespace DataGround.Workspace

open SlashPath Checks

/-! ### Names -/

/-- What `validSourcePath` says of a name. -/
structure ValidPath (name : String) : Prop where
  nonempty : name ≠ ""
  notDot : name ≠ "."
  size : name.utf8ByteSize ≤ 4096
  relative : isAbs name = false
  clean : clean name = name
  text : validLinkText name
  depth : (parts name).length ≤ 64
  parts : ∀ part ∈ parts name, part ≠ ".." ∧ isGit part = false ∧ part.utf8ByteSize ≤ 255

variable {name : String}

lemma validSourcePath_iff : validSourcePath name = true ↔ ValidPath name := by
  simp only [validSourcePath, Bool.and_eq_true, decide_eq_true_eq, List.all_eq_true,
    Bool.not_eq_true', and_assoc]
  constructor
  · rintro ⟨h₁, h₂, h₃, h₄, h₅, h₆, h₇, h₈⟩
    exact ⟨h₁, h₂, h₃, h₄, h₅, h₆, h₇, h₈⟩
  · rintro ⟨h₁, h₂, h₃, h₄, h₅, h₆, h₇, h₈⟩
    exact ⟨h₁, h₂, h₃, h₄, h₅, h₆, h₇, h₈⟩

lemma ValidPath.plain (h : ValidPath name) : ∀ part ∈ SlashPath.parts name, Plain part :=
  plain_of_clean h.nonempty h.notDot h.relative h.clean fun part hpart => (h.parts part hpart).1

lemma validLinkText_of_append {front rest : String} (hne : front ≠ "")
    (h : validLinkText (front ++ rest) = true) : validLinkText front = true := by
  simp only [validLinkText, Bool.and_eq_true, decide_eq_true_eq, Bool.not_eq_true',
    List.all_eq_true, and_assoc, isAbs, String.toList_append, String.utf8ByteSize_append,
    decide_eq_false_iff_not] at h ⊢
  obtain ⟨-, _, hslash, habs, hcontrol⟩ := h
  refine ⟨hne, by omega, ?_, ?_, fun c hc => hcontrol c (List.mem_append_left _ hc)⟩
  · rw [← Bool.not_eq_true, List.contains_iff_mem] at hslash ⊢
    exact fun hmem => hslash (List.mem_append_left _ hmem)
  · intro hhead
    exact habs (by rw [List.head?_append, hhead, Option.some_or])

/-- The parents of a valid name are valid names. -/
lemma ValidPath.of_isParent {above : String} (h : ValidPath name) (habove : IsParent above name) :
    ValidPath above := by
  obtain ⟨front, rest, hfront, hrest, hparts, rfl⟩ := habove
  have hmem : ∀ part ∈ front, part ∈ SlashPath.parts name := fun part hpart =>
    hparts ▸ List.mem_append_left _ hpart
  have hpart : ∀ part ∈ front, IsPart part := fun part hp => isPart_of_mem_parts (hmem part hp)
  have hplain : ∀ part ∈ front, Plain part := fun part hp => h.plain part (hmem part hp)
  have hup : SlashPath.parts (join front) = front := parts_join hfront hpart
  have hname : name = join front ++ ("/" ++ join rest) := by
    rw [← join_append hfront hrest, ← hparts, join_parts]
  have hne : join front ≠ "" := join_ne_empty hfront hpart hplain
  refine ⟨hne, join_ne_dot hfront hpart hplain, ?_, ?_, clean_join hfront hpart hplain, ?_, ?_, ?_⟩
  · have hsize := h.size
    rw [hname, String.utf8ByteSize_append] at hsize
    omega
  · obtain ⟨part, _, rfl⟩ := List.exists_cons_of_ne_nil hfront
    exact isAbs_join (hpart part List.mem_cons_self) (hplain part List.mem_cons_self).1
  · exact validLinkText_of_append hne (hname ▸ h.text)
  · have hdepth := h.depth
    rw [hparts, List.length_append] at hdepth
    rw [hup]
    omega
  · rw [hup]
    exact fun part hp => h.parts part (hmem part hp)

/-! ### Entries -/

/-- An entry as the validators build it: the fields that do not belong to its kind are empty. -/
structure SourceEntry.Proper (entry : SourceEntry) : Prop where
  path : ValidPath entry.name
  file : entry.kind = .file → entry.target = ""
  directory : entry.kind = .directory →
    entry.executable = false ∧ entry.content = [] ∧ entry.target = ""
  symlink : entry.kind = .symlink →
    entry.executable = false ∧ entry.content = [] ∧ validLinkText entry.target

/-- Every entry is proper and stands under its name. -/
def Entries.Proper (entries : Entries) : Prop :=
  ∀ ⦃name entry⦄, entries.lookup name = some entry → entry.name = name ∧ entry.Proper

/-- Every proper parent of an entry is a directory entry. -/
def Entries.Closed (entries : Entries) : Prop :=
  ∀ ⦃name above⦄, name ∈ entries → IsParent above name →
    ∃ parent, entries.lookup above = some parent ∧ parent.kind = .directory

variable {entry : SourceEntry} {entries : Entries}

lemma contentBytes_insert (h : name ∉ entries) :
    contentBytes (entries.insert name entry) = entry.content.length + contentBytes entries := by
  rw [contentBytes, AList.insert_of_notMem h, List.map_cons, List.sum_cons, contentBytes]

lemma Entries.Proper.insert (h : Entries.Proper entries) (hentry : entry.Proper) :
    Entries.Proper (entries.insert entry.name entry) := by
  intro name found hfound
  rcases Table.lookup_insert_cases hfound with ⟨rfl, rfl⟩ | hfound
  · exact ⟨rfl, hentry⟩
  · exact h hfound

lemma Entries.Proper.validPath (h : Entries.Proper entries) (hname : name ∈ entries) : ValidPath name := by
  obtain ⟨_, hentry⟩ := Option.isSome_iff_exists.mp (AList.lookup_isSome.mpr hname)
  obtain ⟨rfl, hproper⟩ := h hentry
  exact hproper.path

lemma properDirectory (h : ValidPath name) : SourceEntry.Proper { name, kind := .directory } :=
  ⟨h, fun hkind => (nomatch hkind), fun _ => ⟨rfl, rfl, rfl⟩, fun hkind => (nomatch hkind)⟩

/-! ### Headers -/

/-- The entry bears the name it is built for, is proper, and fits the budget. -/
structure SourceEntry.Fits (entry : SourceEntry) (name : String) (sourceBytes : ℕ) : Prop where
  name : entry.name = name
  proper : entry.Proper
  budget : sourceBytes + entry.content.length ≤ maximumSourceBytes

variable {item : TarItem} {sourceBytes : ℕ}

lemma TarItem.fileEntry_eq_ok (h : item.fileEntry name sourceBytes = .ok entry) :
    ∃ content, item.content = some content ∧ (content.length : ℤ) = item.header.size ∧
      item.header.size ≤ maximumSourceBytes - sourceBytes ∧
      entry = { name, kind := .file, executable := isExecutable item.header.mode, content } := by
  rw [TarItem.fileEntry, require_bind_eq_ok] at h
  obtain ⟨⟨-, hsize⟩, h⟩ := h
  cases hcontent : item.content with
  | none =>
    rw [hcontent] at h
    cases h
  | some content =>
    rw [hcontent] at h
    dsimp only at h
    rw [require_bind_eq_ok] at h
    obtain ⟨hlength, h⟩ := h
    cases h
    exact ⟨content, rfl, hlength, hsize, rfl⟩

lemma TarItem.linkEntry_eq_ok (h : item.linkEntry name = .ok entry) :
    ∃ target, item.header.linkname = some target ∧ item.header.size = 0 ∧ validLinkText target ∧
      entry = { name, kind := .symlink, target } := by
  rw [TarItem.linkEntry] at h
  cases htarget : item.header.linkname with
  | none =>
    rw [htarget] at h
    cases h
  | some target =>
    rw [htarget] at h
    dsimp only at h
    rw [require_bind_eq_ok] at h
    obtain ⟨⟨hsize, hvalid⟩, h⟩ := h
    cases h
    exact ⟨target, rfl, hsize, hvalid, rfl⟩

lemma TarItem.fits_of_fileEntry (hname : ValidPath name)
    (h : item.fileEntry name sourceBytes = .ok entry) : entry.Fits name sourceBytes := by
  obtain ⟨content, -, _, _, rfl⟩ := fileEntry_eq_ok h
  refine ⟨rfl, ⟨hname, fun _ => rfl, fun hkind => (nomatch hkind), fun hkind => (nomatch hkind)⟩, ?_⟩
  show sourceBytes + content.length ≤ maximumSourceBytes
  omega

lemma TarItem.fits_of_entry (hname : ValidPath name) (hbudget : sourceBytes ≤ maximumSourceBytes)
    (h : item.entry name sourceBytes = .ok entry) : entry.Fits name sourceBytes := by
  unfold TarItem.entry at h
  split at h
  · exact fits_of_fileEntry hname h
  · exact fits_of_fileEntry hname h
  · rw [require_bind_eq_ok] at h
    cases h.2
    exact ⟨rfl, properDirectory hname, hbudget⟩
  · obtain ⟨_, -, -, htarget, rfl⟩ := linkEntry_eq_ok h
    exact ⟨rfl, ⟨hname, fun hkind => (nomatch hkind), fun hkind => (nomatch hkind),
      fun _ => ⟨rfl, rfl, htarget⟩⟩, hbudget⟩
  · cases h
  · cases h

/-- What the loop over the headers keeps. -/
structure Reading.Sound (reading : Reading) : Prop where
  proper : Entries.Proper reading.entries
  count : Table.size reading.entries ≤ reading.headers
  headers : reading.headers ≤ maximumEntries
  content : contentBytes reading.entries = reading.sourceBytes
  budget : reading.sourceBytes ≤ maximumSourceBytes

lemma Reading.sound_initial : Reading.Sound {} :=
  ⟨fun _ _ h => (nomatch h), Nat.zero_le _, Nat.zero_le _, rfl, Nat.zero_le _⟩

/-- What the header of an entry has to satisfy alone, with the name that it stands for. -/
def TarItem.Names (item : TarItem) (name : String) : Prop :=
  ValidPath name ∧ item.header.typeflag ≠ .xGlobalHeader ∧
    (0 ≤ item.header.mode ∧ item.header.mode ≤ 0o777) ∧
    (∀ record ∈ item.header.paxRecords, ¬ sparseKey <+: record.1) ∧
    ∃ text, item.header.name = some text ∧
      name = if item.header.typeflag = .dir then trimSlash text else text

/-- What one header does: nothing but counting, if it is global, and otherwise the insertion of one
new entry. -/
lemma Reading.next_iff {reading next : Reading} : reading.next item = .ok next ↔
    (reading.headers < maximumEntries ∧ Table.size reading.entries < maximumEntries) ∧
    ((item.header.typeflag = .xGlobalHeader ∧
        (∀ record ∈ item.header.paxRecords, record.1 = commentKey ∧ record.2.length ≤ 1024) ∧
        next = { reading with headers := reading.headers + 1 }) ∨
      ∃ name entry, item.Names name ∧ name ∉ reading.entries ∧
        item.entry name reading.sourceBytes = .ok entry ∧
        next = { headers := reading.headers + 1, entries := reading.entries.insert name entry
                 sourceBytes := reading.sourceBytes + entry.content.length }) := by
  unfold Reading.next
  dsimp only
  rw [require_bind_eq_ok]
  refine and_congr_right fun _ => ?_
  split
  · rename_i hglobal
    rw [require_bind_eq_ok]
    constructor
    · rintro ⟨hrecords, h⟩
      cases h
      exact .inl ⟨hglobal, hrecords, rfl⟩
    · rintro (⟨-, hrecords, rfl⟩ | ⟨_, _, hnames, -⟩)
      · exact ⟨hrecords, rfl⟩
      · exact absurd hglobal hnames.2.1
  · rename_i hglobal
    split
    · rename_i htext
      refine iff_of_false nofun ?_
      rintro (⟨h, -⟩ | ⟨_, _, ⟨-, -, -, -, _, hsome, -⟩, -⟩)
      · exact hglobal h
      · cases htext.symm.trans hsome
    · rename_i text htext
      rw [require_bind_eq_ok, require_bind_eq_ok, require_bind_eq_ok, bind_eq_ok,
        validSourcePath_iff]
      constructor
      · rintro ⟨⟨hpath, hmode⟩, hnew, hsparse, entry, hentry, h⟩
        cases h
        exact .inr ⟨_, entry, ⟨hpath, hglobal, hmode, hsparse, text, htext, rfl⟩, hnew, hentry, rfl⟩
      · rintro (⟨h, -⟩ | ⟨_, entry, ⟨hpath, -, hmode, hsparse, _, hsome, rfl⟩, hnew, hentry, rfl⟩)
        · exact absurd h hglobal
        · cases htext.symm.trans hsome
          exact ⟨⟨hpath, hmode⟩, hnew, hsparse, entry, hentry, rfl⟩

lemma Reading.Sound.next {reading next : Reading} (hsound : reading.Sound)
    (h : reading.next item = .ok next) : next.Sound := by
  obtain ⟨⟨hheaders, -⟩, ⟨-, -, rfl⟩ | ⟨name, entry, hnames, hnew, hentry, rfl⟩⟩ := next_iff.mp h
  · exact ⟨hsound.proper, Nat.le_succ_of_le hsound.count, hheaders, hsound.content, hsound.budget⟩
  · obtain ⟨rfl, hproper, hbudget⟩ := TarItem.fits_of_entry hnames.1 hsound.budget hentry
    refine ⟨hsound.proper.insert hproper, ?_, hheaders, ?_, hbudget⟩
    · rw [Table.size_insert_of_notMem hnew]
      exact Nat.succ_le_succ hsound.count
    · show contentBytes (reading.entries.insert entry.name entry) = _
      rw [contentBytes_insert hnew, hsound.content, Nat.add_comm]

/-! ### Parents -/

variable {next : Entries} {parent : String}

/-- What one turn of the loop over the parents does. -/
lemma addParent_iff : addParent entries parent = .ok next ↔
    (∃ entry, entries.lookup parent = some entry ∧ entry.kind = .directory ∧ next = entries) ∨
    (parent ∉ entries ∧ Table.size entries < maximumEntries ∧
      next = entries.insert parent { name := parent, kind := .directory }) := by
  unfold addParent
  split
  · rename_i entry hentry
    have hmem : parent ∈ entries := Table.mem_of_lookup hentry
    simp only [require_bind_eq_ok, hentry, Option.some.injEq, exists_eq_left', hmem,
      not_true_eq_false, false_and, or_false]
    exact and_congr_right fun _ => ⟨fun h => by cases h; rfl, fun h => by rw [h]; rfl⟩
  · rename_i hentry
    simp only [require_bind_eq_ok, hentry, reduceCtorEq, false_and, exists_false, false_or,
      AList.lookup_eq_none.mp hentry, not_false_eq_true, true_and]
    exact and_congr_right fun _ => ⟨fun h => by cases h; rfl, fun h => by rw [h]; rfl⟩

/-- A turn keeps every entry that is there. -/
lemma lookup_addParent (h : addParent entries parent = .ok next)
    (hentry : entries.lookup name = some entry) :
    next.lookup name = some entry := by
  obtain ⟨-, -, -, rfl⟩ | ⟨hnew, -, rfl⟩ := addParent_iff.mp h
  · exact hentry
  · exact Table.lookup_insert_of_fresh hnew hentry

lemma lookup_foldlM_addParent {parents : List String}
    (h : parents.foldlM addParent entries = .ok next) (hentry : entries.lookup name = some entry) :
    next.lookup name = some entry :=
  foldlM_invariant (I := fun entries => entries.lookup name = some entry)
    (fun _ _ _ _ hstate hstep => lookup_addParent hstep hstate) hentry h

/-- After the loop every parent it went through is a directory. -/
lemma directory_of_mem_parents {parents : List String}
    (h : parents.foldlM addParent entries = .ok next) (hmem : parent ∈ parents) :
    ∃ entry, next.lookup parent = some entry ∧ entry.kind = .directory := by
  induction parents generalizing entries with
  | nil => cases hmem
  | cons _ _ ih =>
    rw [List.foldlM_cons, bind_eq_ok] at h
    obtain ⟨_, hfirst, hrest⟩ := h
    rcases List.mem_cons.mp hmem with rfl | hmem
    · obtain ⟨entry, hentry, hkind, rfl⟩ | ⟨-, -, rfl⟩ := addParent_iff.mp hfirst
      · exact ⟨entry, lookup_foldlM_addParent hrest hentry, hkind⟩
      · exact ⟨_, lookup_foldlM_addParent hrest (AList.lookup_insert _), rfl⟩
    · exact ih hrest hmem

/-- What the loop over the parents keeps, against the entries it started with. -/
structure Grown (start entries : Entries) : Prop where
  proper : Entries.Proper entries
  count : Table.size entries ≤ maximumEntries
  content : contentBytes entries = contentBytes start
  origin : ∀ name ∈ entries, name ∈ start ∨ ∃ path ∈ start, IsParent name path

lemma Grown.addParent {start : Entries} {path : String} (hgrown : Grown start entries)
    (hpath : path ∈ start) (hvalid : ValidPath path) (hparent : IsParent parent path)
    (h : addParent entries parent = .ok next) :
    Grown start next := by
  obtain ⟨-, -, -, rfl⟩ | ⟨hnew, _, rfl⟩ := addParent_iff.mp h
  · exact hgrown
  · refine ⟨hgrown.proper.insert (properDirectory (hvalid.of_isParent hparent)), ?_, ?_, ?_⟩
    · rw [Table.size_insert_of_notMem hnew]
      omega
    · rw [contentBytes_insert hnew, hgrown.content]
      exact Nat.zero_add _
    · intro name hname
      rcases (AList.mem_insert _).mp hname with rfl | hold
      · exact .inr ⟨path, hpath, hparent⟩
      · exact hgrown.origin name hold

lemma mem_parentNames (hproper : Entries.Proper entries) {above : String} :
    above ∈ parentNames entries.keys ↔ ∃ path ∈ entries, IsParent above path := by
  rw [parentNames, List.mem_flatMap]
  refine exists_congr fun path => and_congr_right fun hpath => ?_
  exact mem_ancestors (hproper.validPath (AList.mem_keys.mpr hpath)).plain le_rfl

/-- The loop over the parents leaves proper entries that are closed, with no more content than
before, among them the entries it started with. -/
lemma insertParents_spec {start : Entries} (hproper : Entries.Proper start)
    (hcount : Table.size start ≤ maximumEntries) (h : insertParents start = .ok entries) :
    Grown start entries ∧ Entries.Closed entries ∧
      ∀ name entry, start.lookup name = some entry → entries.lookup name = some entry := by
  have hgrown : Grown start entries := by
    refine foldlM_invariant (I := Grown start) (fun parent hparent _ _ hstate hstep => ?_)
      ⟨hproper, hcount, rfl, fun name hname => .inl hname⟩ h
    obtain ⟨path, hpath, habove⟩ := (mem_parentNames hproper).mp hparent
    exact hstate.addParent hpath (hproper.validPath hpath) habove hstep
  refine ⟨hgrown, ?_, fun name entry => lookup_foldlM_addParent h⟩
  intro name above hname habove
  refine directory_of_mem_parents h ((mem_parentNames hproper).mpr ?_)
  -- A parent that was inserted has only parents that the loop inserts as well.
  rcases hgrown.origin name hname with hstart | ⟨path, hpath, hparent⟩
  · exact ⟨name, hstart, habove⟩
  · exact ⟨path, hpath, habove.trans hparent⟩

/-! ### Links -/

/-- What an entry is for pathname resolution. -/
def SourceEntry.node (entry : SourceEntry) : PathNode :=
  match entry.kind with
  | .file => .file
  | .directory => .directory
  | .symlink => .link entry.target

/-- The tree of the entries. -/
def tree (entries : Entries) (position : List String) : Option PathNode :=
  (entries.lookup (join position)).map SourceEntry.node

variable {position : List String}

lemma tree_of_lookup (h : entries.lookup (join position) = some entry) :
    tree entries position = some entry.node := by
  rw [tree, h, Option.map_some]

/-- The position is that of the root or of an entry. -/
def Exists (entries : Entries) (position : List String) : Prop :=
  position = [] ∨ join position ∈ entries

/-- The position is that of the root or of a directory entry. -/
def AtDirectory (entries : Entries) (position : List String) : Prop :=
  position = [] ∨ ∃ entry, entries.lookup (join position) = some entry ∧ entry.kind = .directory

lemma AtDirectory.exists (h : AtDirectory entries position) : Exists entries position := by
  rcases h with hroot | ⟨entry, hentry, -⟩
  · exact .inl hroot
  · exact .inr (Table.mem_of_lookup hentry)

/-- Above a directory there is a directory. -/
lemma AtDirectory.up (hclosed : Entries.Closed entries) {last : String}
    (hpart : ∀ part ∈ position ++ [last], IsPart part) (h : AtDirectory entries (position ++ [last])) :
    AtDirectory entries position := by
  by_cases hroot : position = []
  · exact .inl hroot
  · rcases h.exists with hnil | hmem
    · exact absurd hnil (by simp)
    · refine .inr (hclosed hmem ⟨position, [last], hroot, List.cons_ne_nil _ _, ?_, rfl⟩)
      exact parts_join (by simp) hpart

/-- The bounded loop of `containedLink`, where it says yes, is a walk that ends at the root or at an
entry. -/
theorem walk_of_resolveLink (hclosed : Entries.Closed entries) {turns : ℕ}
    {seen resolved pending : List String} (h : resolveLink entries turns seen resolved pending = true)
    (hresolved : ∀ part ∈ resolved, IsPart part) (hat : AtDirectory entries resolved)
    (hpending : ∀ part ∈ pending, IsPart part) :
    ∃ final, Walk (tree entries) resolved pending (.found final) ∧ Exists entries final := by
  induction turns generalizing seen resolved pending with
  | zero =>
    cases pending with
    | nil => exact ⟨resolved, .done, hat.exists⟩
    | cons =>
      rw [resolveLink] at h
      cases h
  | succ _ ih =>
    cases pending with
    | nil => exact ⟨resolved, .done, hat.exists⟩
    | cons part pending =>
      have hpart : IsPart part := hpending part List.mem_cons_self
      have hrest : ∀ part ∈ pending, IsPart part := fun p hp =>
        hpending p (List.mem_cons_of_mem _ hp)
      have hnext : ∀ p ∈ resolved ++ [part], IsPart p := fun p hp =>
        (List.mem_append.mp hp).elim (hresolved p) fun hlast => List.mem_singleton.mp hlast ▸ hpart
      rw [resolveLink] at h
      split at h
      · cases h
      split at h
      · rename_i hstay
        obtain ⟨final, hwalk, hexists⟩ := ih h hresolved hat hrest
        exact ⟨final, .stay hstay hwalk, hexists⟩
      rename_i hstay
      split at h
      · rename_i hdots
        split at h
        · cases h
        · rename_i hroot
          obtain ⟨front, last, rfl⟩ : ∃ front last, resolved = front ++ [last] :=
            ⟨_, _, (List.dropLast_append_getLast hroot).symm⟩
          rw [List.dropLast_concat] at h
          obtain ⟨final, hwalk, hexists⟩ :=
            ih h (fun p hp => hresolved p (List.mem_append_left _ hp))
              (hat.up hclosed hresolved) hrest
          exact ⟨final, hdots ▸ .up hwalk, hexists⟩
      rename_i hdots
      have hplain : Plain part := ⟨fun he => hstay (.inl he), fun he => hstay (.inr he), hdots⟩
      dsimp only at h
      split at h
      · cases h
      · rename_i entry hentry
        have hnode := tree_of_lookup hentry
        cases hkind : entry.kind with
        | symlink =>
          rw [if_pos hkind] at h
          split at h
          · cases h
          · obtain ⟨final, hwalk, hexists⟩ := ih h hresolved hat fun p hp =>
              (List.mem_append.mp hp).elim isPart_of_mem_parts (hrest p)
            rw [SourceEntry.node, hkind] at hnode
            exact ⟨final, .follow hplain hnode hwalk, hexists⟩
        | directory =>
          rw [if_neg (by rw [hkind]; decide), if_neg fun hfile => hfile.2 hkind] at h
          rw [SourceEntry.node, hkind] at hnode
          obtain ⟨final, hwalk, hexists⟩ := ih h hnext (.inr ⟨entry, hentry, hkind⟩) hrest
          exact ⟨final, .enter hplain hnode hwalk, hexists⟩
        | file =>
          rw [if_neg (by rw [hkind]; decide)] at h
          split at h
          · cases h
          · rename_i hlast
            have hnil : pending = [] := by
              by_contra hne
              exact hlast ⟨hne, by rw [hkind]; decide⟩
            subst hnil
            rw [SourceEntry.node, hkind] at hnode
            exact ⟨_, .file hplain hnode, .inr (Table.mem_of_lookup hentry)⟩

/-- A link that `containedLink` accepts resolves, from the directory it stands in, to the root or to
an entry, and to nothing else. -/
lemma resolves_of_containedLink (hproper : Entries.Proper entries) (hclosed : Entries.Closed entries)
    {link : SourceEntry} (hmem : link.name ∈ entries) (h : containedLink entries link = true) :
    ∃ final, Exists entries final ∧ ∀ outcome,
      Walk (tree entries) (parts link.name).dropLast (parts link.target) outcome ↔
        outcome = .found final := by
  obtain ⟨final, hwalk, hexists⟩ := walk_of_resolveLink hclosed h (fun _ h => nomatch h) (.inl rfl)
    fun part hpart => (List.mem_append.mp hpart).elim isPart_of_mem_parts isPart_of_mem_parts
  have hplain := (hproper.validPath hmem).plain
  have hparts : parts link.name = (parts link.name).dropLast ++ [(parts link.name).getLast
      (parts_ne_nil _)] := (List.dropLast_append_getLast _).symm
  set front := (parts link.name).dropLast with hfront
  have hbelow : ∀ part ∈ front, Plain part := fun part hpart =>
    hplain part (hparts ▸ List.mem_append_left _ hpart)
  -- The first parts of the loop lead down the directories above the link.
  have hstart : Walk (tree entries) front (parts link.target) (.found final) := by
    rw [dir_of_parts hparts hbelow] at hwalk
    by_cases hnil : front = []
    · rw [if_pos hnil] at hwalk
      rw [hnil]
      exact hwalk.of_stay (.inr rfl)
    · rw [if_neg hnil, parts_join hnil fun part hpart =>
        isPart_of_mem_parts (hparts ▸ List.mem_append_left _ hpart)] at hwalk
      refine hwalk.of_directories hbelow fun first rest hfirst hsplit => ?_
      obtain ⟨_, hlookup, hkind⟩ := hclosed hmem
        ⟨first, rest ++ [_], hfirst, by simp, by rw [hparts, hsplit, List.append_assoc], rfl⟩
      rw [List.nil_append, tree_of_lookup hlookup, SourceEntry.node, hkind]
  exact ⟨final, hexists, fun outcome => ⟨fun hother => hother.unique hstart, fun he => he ▸ hstart⟩⟩

/-! ### Snapshots -/

/-- What a successful inspection has gone through. -/
structure Inspected (library : SourceLibrary) (archive : Bytes) (digest : String) (reading : Reading)
    (snapshot : Snapshot) : Prop where
  length : archive.length ≤ maximumArchiveBytes
  expected : workspaceDigest library archive = digest
  read : (library.readTar archive).items.foldlM Reading.next {} = .ok reading
  parents : insertParents reading.entries = .ok snapshot.entries
  links : linksContained snapshot.entries = true
  archive : snapshot.archive = archive
  receipt : snapshot.receipt.archiveDigest = digest

lemma inspect_eq_ok {library : SourceLibrary} {archive : Bytes} {digest : String}
    {snapshot : Snapshot} (h : inspect library archive digest = .ok snapshot) :
    ∃ reading, Inspected library archive digest reading snapshot := by
  unfold inspect at h
  dsimp only at h
  rw [require_bind_eq_ok, require_bind_eq_ok, bind_eq_ok] at h
  obtain ⟨⟨hlength, -, -⟩, hdigest, reading, hread, h⟩ := h
  rw [require_bind_eq_ok, bind_eq_ok] at h
  obtain ⟨-, _, hparents, h⟩ := h
  rw [require_bind_eq_ok] at h
  obtain ⟨hlinks, h⟩ := h
  cases h
  exact ⟨reading, hlength, hdigest, hread, hparents, hlinks, rfl, hdigest⟩

namespace Inspected

variable {library : SourceLibrary} {archive : Bytes} {digest : String} {reading : Reading}
  {snapshot : Snapshot}

lemma sound (h : Inspected library archive digest reading snapshot) : reading.Sound :=
  foldlM_invariant (fun _ _ _ _ hstate hstep => hstate.next hstep) Reading.sound_initial h.read

lemma count_le (h : Inspected library archive digest reading snapshot) :
    Table.size reading.entries ≤ maximumEntries :=
  h.sound.count.trans h.sound.headers

lemma grown (h : Inspected library archive digest reading snapshot) :
    Grown reading.entries snapshot.entries :=
  (insertParents_spec h.sound.proper h.count_le h.parents).1

lemma closed (h : Inspected library archive digest reading snapshot) :
    Entries.Closed snapshot.entries :=
  (insertParents_spec h.sound.proper h.count_le h.parents).2.1

lemma content_le (h : Inspected library archive digest reading snapshot) :
    contentBytes snapshot.entries ≤ maximumSourceBytes := by
  rw [h.grown.content, h.sound.content]
  exact h.sound.budget

lemma containedLink_of_lookup (h : Inspected library archive digest reading snapshot)
    {link : SourceEntry} (hlink : snapshot.entries.lookup name = some link)
    (hkind : link.kind = .symlink) : containedLink snapshot.entries link = true := by
  have hall := List.all_eq_true.mp h.links ⟨name, link⟩ (AList.mem_lookup_iff.mp hlink)
  simpa [hkind] using hall

end Inspected

/-- The snapshot is a tree below one root, within the limits, that no link leaves. -/
structure Snapshot.Contained (snapshot : Snapshot) : Prop where
  parents : ∀ name ∈ snapshot.entries, ∀ above, IsParent above name →
    ∃ parent, snapshot.entries.lookup above = some parent ∧ parent.kind = .directory
  paths : ∀ name ∈ snapshot.entries, clean name = name ∧ isAbs name = false ∧
    ∀ part ∈ parts name, part ≠ ".." ∧ isGit part = false
  count : Table.size snapshot.entries ≤ 4096
  content : contentBytes snapshot.entries ≤ 24 * 2 ^ 20
  /-- From the directory of the link, its target has one outcome: the root or an entry. -/
  links : ∀ name link, snapshot.entries.lookup name = some link → link.kind = .symlink →
    ∃ final, Exists snapshot.entries final ∧ ∀ outcome,
      Walk (tree snapshot.entries) (parts name).dropLast (parts link.target) outcome ↔
        outcome = .found final

/-- Whatever the tar reader yields for an archive, a snapshot that `Inspect` returns is contained. -/
theorem inspected_source_contained (library : SourceLibrary) (archive : Bytes) (digest : String)
    (snapshot : Snapshot) (h : inspect library archive digest = .ok snapshot) :
    snapshot.Contained := by
  obtain ⟨_, hinspected⟩ := inspect_eq_ok h
  have hproper := hinspected.grown.proper
  refine ⟨fun name hname above => hinspected.closed hname, ?_, hinspected.grown.count,
    hinspected.content_le, ?_⟩
  · intro name hname
    have hpath := hproper.validPath hname
    exact ⟨hpath.clean, hpath.relative, fun part hpart =>
      ⟨(hpath.parts part hpart).1, (hpath.parts part hpart).2.1⟩⟩
  · intro name link hlink hkind
    obtain ⟨rfl, -⟩ := hproper hlink
    have hmem : link.name ∈ snapshot.entries := Table.mem_of_lookup hlink
    exact resolves_of_containedLink hproper hinspected.closed hmem
      (hinspected.containedLink_of_lookup hlink hkind)

/-- A tar reader that finds a file `f` and a link `d/l` to it. -/
def twoEntries : SourceLibrary where
  readTar _ :=
    { items := [
        ⟨⟨some "f", .reg, 0o644, some "", 1, []⟩, some [7]⟩,
        ⟨⟨some "d/l", .symlink, 0o777, some "../f", 0, []⟩, some []⟩]
      ending := some 0 }
  sha256Hex _ := ""

/-- The archive with a link through an implicit directory is accepted, with three entries. -/
theorem inspected_source_contained_of_link :
    ∃ snapshot, inspect twoEntries (List.replicate 1024 0) "sha256:" = .ok snapshot ∧
      snapshot.names = ["d", "d/l", "f"] ∧ snapshot.Contained := by
  have hrun : ((inspect twoEntries (List.replicate 1024 0) "sha256:").toOption.map Snapshot.names) =
      some ["d", "d/l", "f"] := by
    decide +kernel
  obtain ⟨snapshot, hsnapshot, hnames⟩ := Option.map_eq_some_iff.mp hrun
  have hok := toOption_eq_some.mp hsnapshot
  exact ⟨snapshot, hok, hnames, inspected_source_contained _ _ _ _ hok⟩

end DataGround.Workspace
