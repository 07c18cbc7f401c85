import DataGround.Workspace.Differences

/-!
# Change sets there and back

Applying the change set of a base and a result yields the entries of the result, and a change set that
`ApplyChanges` accepts is the one that `Compare` computes for the base and the result: there is one
acceptable document for each base and final tree.

What is assumed of the standard library is `RoundTrips`: the tar reader yields the headers and contents
that the tar writer was given for entries of a snapshot, possibly with PAX records besides, and the
JSON decoder yields the document that was encoded.
-/

namespace DataGround.Workspace

open SlashPath Checks

/-! ### The standard library -/

/-- The item that was read is the one that was written, up to PAX records. -/
structure ReadsBack (written read : TarItem) : Prop where
  header : { read.header with paxRecords := written.header.paxRecords } = written.header
  content : read.content = written.content

/-- `archive/tar` and `encoding/json` round-trip on what this package writes. -/
structure ChangeLibrary.RoundTrips (library : ChangeLibrary) : Prop where
  tar : ∀ entries : List SourceEntry, (∀ entry ∈ entries, entry.Proper) → ∀ archive,
    library.writeTar (entries.map fun entry => entry.item entry.name) = some archive →
      List.Forall₂ ReadsBack (entries.map fun entry => entry.item entry.name)
        (library.readTar archive).items
  json : ∀ document encoded, library.marshal document = some encoded →
    encoded ≠ [] ∧ library.unmarshal encoded = some document

/-- A snapshot that the package has handed out: every one comes from `Inspect`. -/
def ChangeLibrary.Yields (library : ChangeLibrary) (snapshot : Snapshot) : Prop :=
  ∃ archive digest, inspect library.toSourceLibrary archive digest = .ok snapshot

variable {snapshot : Snapshot}

variable {library : ChangeLibrary}

lemma ChangeLibrary.Yields.proper (h : library.Yields snapshot) :
    Entries.Proper snapshot.entries := by
  obtain ⟨_, _, hinspect⟩ := h
  obtain ⟨_, hinspected⟩ := inspect_eq_ok hinspect
  exact hinspected.grown.proper

lemma ChangeLibrary.Yields.count (h : library.Yields snapshot) :
    Table.size snapshot.entries ≤ maximumEntries := by
  obtain ⟨_, _, hinspect⟩ := h
  obtain ⟨_, hinspected⟩ := inspect_eq_ok hinspect
  exact hinspected.grown.count

/-! ### Maps with the same entries -/

section Congruence

variable {library : ChangeLibrary} {entries other : Entries}
  (h : ∀ name, entries.lookup name = other.lookup name)

include h

lemma sortedNames_congr : sortedNames entries = sortedNames other := by
  have hperm : (sortedNames entries).Perm (sortedNames other) :=
    (List.perm_insertionSort _ _).trans
      ((Table.keys_perm_of_lookup_eq h).trans (List.perm_insertionSort _ _).symm)
  exact hperm.eq_of_pairwise (fun _ _ _ _ => le_antisymm) (List.pairwise_insertionSort _ _)
    (List.pairwise_insertionSort _ _)

lemma contentBytes_congr : contentBytes entries = contentBytes other :=
  ((Table.perm_of_lookup_eq h).map _).sum_eq

lemma canonicalItems_congr : canonicalItems entries = canonicalItems other := by
  rw [canonicalItems, canonicalItems, sortedNames_congr h]
  exact List.filterMap_congr fun name _ => by rw [h name]

lemma namesValid_congr : namesValid entries = namesValid other := by
  rw [Bool.eq_iff_iff, namesValid, namesValid, List.all_eq_true, List.all_eq_true]
  exact forall_congr' fun entry => imp_congr_left (Table.perm_of_lookup_eq h).mem_iff

/-- What is rebuilt from a map depends on its entries only. -/
lemma rebuild_congr : rebuild library entries = rebuild library other := by
  have hsize : Table.size entries = Table.size other :=
    (Table.keys_perm_of_lookup_eq h).length_eq
  simp only [rebuild, snapshotFromEntries, hsize, namesValid_congr h, contentBytes_congr h,
    canonicalItems_congr h]

omit h

/-- What is compared of a result are its entries. -/
lemma compare_congr {base result again : Snapshot}
    (h : ∀ name, again.entries.lookup name = result.entries.lookup name) :
    compare library base again = compare library base result := by
  have hnames : allNames base.entries again.entries = allNames base.entries result.entries := by
    refine eq_of_pairwise_lt allNames_sorted allNames_sorted fun name => ?_
    rw [mem_allNames, mem_allNames, ← AList.lookup_isSome (s := again.entries), h name,
      AList.lookup_isSome]
  have hchanges : changeAt library.toSourceLibrary base.entries again.entries =
      changeAt library.toSourceLibrary base.entries result.entries :=
    funext fun name => changeAt_congr (h name)
  rw [compare, compare, rebuild_congr h, hnames, hchanges]

end Congruence

/-! ### The canonical archive -/

/-- A valid name does not end in a slash. -/
lemma ValidPath.trimSlash_eq {name : String} (h : ValidPath name) : trimSlash name = name := by
  refine if_neg fun hlast => ?_
  obtain ⟨front, hfront⟩ : ∃ front, name.toList = front ++ ['/'] :=
    ⟨_, (List.dropLast_append_getLast? _ hlast).symm⟩
  have hmem : "" ∈ SlashPath.parts name := by
    rw [SlashPath.parts, hfront, List.splitOn_append_cons_self, List.map_append]
    exact List.mem_append_right _ List.mem_cons_self
  exact (h.plain "" hmem).1 rfl

variable {entry : SourceEntry}

/-- The item of a proper entry yields this entry, whatever its PAX records are. -/
lemma SourceEntry.Proper.eq_of_item {found : SourceEntry} (h : entry.Proper) {sourceBytes : ℕ}
    {paxRecords : List (Bytes × Bytes)} (hfound : TarItem.entry entry.name sourceBytes
      ⟨{ (entry.item entry.name).header with paxRecords }, some entry.content⟩ = .ok found) :
    found = entry := by
  obtain ⟨name, kind, executable, _, target⟩ := entry
  cases kind with
  | file =>
    obtain ⟨_, hcontent, -, -, rfl⟩ := TarItem.fileEntry_eq_ok hfound
    cases hcontent
    obtain rfl : target = "" := h.file rfl
    -- Of the permissions that are written, only those of an executable file have an x bit.
    cases executable <;> simp [SourceEntry.item, isExecutable]
  | directory =>
    obtain ⟨rfl, rfl, rfl⟩ := h.directory rfl
    cases hfound
    rfl
  | symlink =>
    obtain ⟨rfl, rfl, -⟩ := h.symlink rfl
    replace hfound : TarItem.linkEntry name
      ⟨⟨some name, .symlink, 0o600, some target, 0, paxRecords⟩, some []⟩ = .ok found := hfound
    obtain ⟨_, htarget, -, -, rfl⟩ := TarItem.linkEntry_eq_ok hfound
    cases htarget
    rfl

/-- Reading back a proper entry inserts this entry, under a name that is new. -/
lemma Reading.next_of_readsBack {reading next : Reading} {item : TarItem} (hentry : entry.Proper)
    (hread : ReadsBack (entry.item entry.name) item) (h : reading.next item = .ok next) :
    entry.name ∉ reading.entries ∧ next.entries = reading.entries.insert entry.name entry := by
  obtain ⟨⟨name, typeflag, _, _, _, _⟩, _⟩ := item
  obtain ⟨hheader, rfl⟩ := hread
  simp only [SourceEntry.item, TarHeader.mk.injEq] at hheader
  obtain ⟨rfl, rfl, rfl, rfl, rfl, -⟩ := hheader
  obtain ⟨-, ⟨hglobal, -⟩ | ⟨name, _, ⟨-, -, -, -, _, htext, hname⟩, hnew, hfound, rfl⟩⟩ :=
    Reading.next_iff.mp h
  · cases hkind : entry.kind <;> simp [hkind, EntryKind.typeflag] at hglobal
  · cases htext
    obtain rfl : name = entry.name := by
      rw [hname]
      exact ite_eq_right_iff.mpr fun _ => hentry.path.trimSlash_eq
    exact ⟨hnew, by rw [hentry.eq_of_item hfound]⟩

/-- After the archive of some proper entries has been read, they are there, and the rest is as
before. -/
lemma lookup_of_readsBack {entries : List SourceEntry} {items : List TarItem}
    {reading final : Reading} (hentries : ∀ entry ∈ entries, entry.Proper)
    (hread : List.Forall₂ ReadsBack (entries.map fun entry => entry.item entry.name) items)
    (h : items.foldlM Reading.next reading = .ok final) :
    (∀ entry ∈ entries, final.entries.lookup entry.name = some entry) ∧
      ∀ name entry, reading.entries.lookup name = some entry →
        final.entries.lookup name = some entry := by
  induction entries generalizing items reading with
  | nil =>
    cases hread
    cases h
    exact ⟨fun _ he => (nomatch he), fun _ _ he => he⟩
  | cons entry _ ih =>
    obtain ⟨_, _, hitem, hrest, rfl⟩ := List.forall₂_cons_left_iff.mp hread
    rw [List.foldlM_cons, bind_eq_ok] at h
    obtain ⟨_, hnext, hfold⟩ := h
    obtain ⟨hnew, hinsert⟩ :=
      Reading.next_of_readsBack (hentries entry List.mem_cons_self) hitem hnext
    obtain ⟨hthere, hkept⟩ := ih (fun e he => hentries e (List.mem_cons_of_mem _ he)) hrest hfold
    refine ⟨?_, ?_⟩
    · intro e he
      rcases List.mem_cons.mp he with rfl | he
      · exact hkept _ _ (by rw [hinsert, AList.lookup_insert])
      · exact hthere e he
    · intro name e he
      exact hkept name e (by rw [hinsert, Table.lookup_insert_of_fresh hnew he])

/-- The entries in the order of the canonical archive. -/
def orderedEntries (entries : Entries) : List SourceEntry :=
  (sortedNames entries).filterMap fun name => entries.lookup name

variable {entries : Entries}

lemma mem_orderedEntries (hproper : Entries.Proper entries) :
    entry ∈ orderedEntries entries ↔ entries.lookup entry.name = some entry := by
  rw [orderedEntries, List.mem_filterMap]
  constructor
  · rintro ⟨name, -, hname⟩
    rw [(hproper hname).1, hname]
  · intro h
    refine ⟨entry.name, ?_, h⟩
    rw [sortedNames, List.mem_insertionSort]
    exact Table.mem_of_lookup h

lemma canonicalItems_eq (hproper : Entries.Proper entries) :
    canonicalItems entries = (orderedEntries entries).map fun entry => entry.item entry.name := by
  rw [canonicalItems, orderedEntries, List.map_filterMap]
  refine List.filterMap_congr fun name _ => ?_
  cases hentry : entries.lookup name with
  | none => rfl
  | some => rw [Option.map_some, Option.map_some, (hproper hentry).1]

lemma rebuild_eq_ok (h : rebuild library entries = .ok snapshot) :
    contentBytes entries ≤ maximumSourceBytes ∧ ∃ archive,
      library.writeTar (canonicalItems entries) = some archive ∧
      inspect library.toSourceLibrary archive (workspaceDigest library.toSourceLibrary archive) =
        .ok snapshot ∧
      Table.size snapshot.entries = Table.size entries := by
  rw [rebuild, mapError_eq_ok, snapshotFromEntries, require_bind_eq_ok, require_bind_eq_ok,
    require_bind_eq_ok] at h
  obtain ⟨-, -, hcontent, h⟩ := h
  refine ⟨hcontent, ?_⟩
  cases harchive : library.writeTar (canonicalItems entries) with
  | none =>
    rw [harchive] at h
    cases h
  | some archive =>
    rw [harchive] at h
    dsimp only at h
    rw [require_bind_eq_ok, bind_eq_ok] at h
    obtain ⟨-, _, hinspect, h⟩ := h
    rw [require_bind_eq_ok] at h
    obtain ⟨hsize, h⟩ := h
    cases h
    exact ⟨archive, rfl, hinspect, hsize⟩

/-- The snapshot that is rebuilt from proper entries has exactly these entries. -/
lemma lookup_rebuild (hlaws : library.RoundTrips) (hproper : Entries.Proper entries)
    (h : rebuild library entries = .ok snapshot) (name : String) :
    snapshot.entries.lookup name = entries.lookup name := by
  obtain ⟨-, archive, harchive, hinspect, hsize⟩ := rebuild_eq_ok h
  obtain ⟨_, hinspected⟩ := inspect_eq_ok hinspect
  rw [canonicalItems_eq hproper] at harchive
  have hentries : ∀ entry ∈ orderedEntries entries, entry.Proper := fun entry hentry =>
    (hproper ((mem_orderedEntries hproper).mp hentry)).2
  have hthere :=
    (lookup_of_readsBack hentries (hlaws.tar _ hentries archive harchive) hinspected.read).1
  -- All entries are read back, and the snapshot has no more of them.
  refine Table.lookup_eq_of_extends (fun key entry hentry => ?_) hsize.le name
  obtain ⟨rfl, -⟩ := hproper hentry
  have hkept := (insertParents_spec hinspected.sound.proper hinspected.count_le
    hinspected.parents).2.2
  exact hkept _ _ (hthere entry ((mem_orderedEntries hproper).mpr hentry))

/-! ### Change sets -/

variable {base result : Snapshot}

lemma compare_eq_ok {changes : ChangeSet} (h : compare library base result = .ok changes) :
    ∃ canonical, rebuild library result.entries = .ok canonical ∧
      library.marshal
        { contract := changeSetContract, baseArchiveDigest := base.receipt.archiveDigest
          resultArchiveDigest := canonical.receipt.archiveDigest
          changes := some ((allNames base.entries result.entries).filterMap
            (changeAt library.toSourceLibrary base.entries result.entries)) } =
        some changes.encoded ∧
      changes.encoded.length ≤ maximumChangeSetBytes := by
  rw [compare, bind_eq_ok] at h
  obtain ⟨canonical, hcanonical, h⟩ := h
  dsimp only at h
  split at h
  · cases h
  · rename_i encoded hencoded
    rw [require_bind_eq_ok] at h
    obtain ⟨hlength, h⟩ := h
    cases h
    exact ⟨canonical, hcanonical, hencoded, hlength⟩

/-- What a successful application has gone through. -/
structure Applied (library : ChangeLibrary) (base : Snapshot) (encoded : Bytes)
    (changes : List FileChange) (final : Applying) (result : Snapshot) : Prop where
  length : encoded.length ≤ maximumChangeSetBytes
  encoded : library.marshal
    { contract := changeSetContract, baseArchiveDigest := base.receipt.archiveDigest
      resultArchiveDigest := result.receipt.archiveDigest, changes := some changes } = some encoded
  loop : changes.foldlM (Applying.next library.toSourceLibrary base.entries)
    { entries := base.entries } = .ok final
  rebuilt : rebuild library final.entries = .ok result

variable {encoded : Bytes}

lemma applyChanges_eq_ok {digest : String}
    (h : applyChanges library base encoded digest = .ok result) :
    workspaceDigest library.toSourceLibrary encoded = digest ∧
      ∃ changes final, Applied library base encoded changes final result := by
  rw [applyChanges, require_bind_eq_ok] at h
  obtain ⟨⟨-, hlength, hdigest⟩, h⟩ := h
  refine ⟨hdigest, ?_⟩
  cases hdocument : library.unmarshal encoded with
  | none =>
    rw [hdocument] at h
    cases h
  | some document =>
    obtain ⟨_, _, _, changes⟩ := document
    rw [hdocument] at h
    cases changes with
    | none => cases h
    | some changes =>
      dsimp only at h
      rw [require_bind_eq_ok, require_bind_eq_ok, bind_eq_ok] at h
      obtain ⟨⟨rfl, rfl, -⟩, hencoded, final, hloop, h⟩ := h
      rw [bind_eq_ok] at h
      obtain ⟨_, hrebuilt, h⟩ := h
      rw [require_bind_eq_ok] at h
      obtain ⟨rfl, h⟩ := h
      cases h
      exact ⟨changes, final, hlength, hencoded, hloop, hrebuilt⟩

/-- The application goes through if its document is decoded and its loop and its result are as they
should be. -/
lemma Applied.applyChanges (hlaws : library.RoundTrips) {changes : List FileChange}
    {final : Applying} (h : Applied library base encoded changes final result)
    (hcount : changes.length ≤ 2 * maximumEntries) :
    applyChanges library base encoded (workspaceDigest library.toSourceLibrary encoded) =
      .ok result := by
  obtain ⟨hnonempty, hdocument⟩ := hlaws.json _ _ h.encoded
  rw [Workspace.applyChanges, require_of_true ⟨hnonempty, h.length, rfl⟩, hdocument]
  dsimp only
  rw [require_of_true ⟨rfl, rfl, hcount⟩, require_of_true h.encoded, bind_eq_ok]
  refine ⟨final, h.loop, ?_⟩
  rw [bind_eq_ok]
  exact ⟨result, h.rebuilt, by rw [require_of_true rfl]; rfl⟩

/-- Applying what `Compare` encoded succeeds, with the entries of the compared result. -/
theorem changes_applied (library : ChangeLibrary) (hlaws : library.RoundTrips)
    (base result : Snapshot) (hbase : library.Yields base) (hresult : library.Yields result)
    (changes : ChangeSet) (h : compare library base result = .ok changes) :
    ∃ rebuilt,
      applyChanges library base changes.encoded
        (workspaceDigest library.toSourceLibrary changes.encoded) = .ok rebuilt ∧
      ∀ name, rebuilt.entries.lookup name = result.entries.lookup name := by
  obtain ⟨canonical, hcanonical, hencoded, hlength⟩ := compare_eq_ok h
  obtain ⟨hcontent, -⟩ := rebuild_eq_ok hcanonical
  obtain ⟨final, hloop, hfinal⟩ := apply_difference hbase.proper hresult.proper hcontent
    (isDifference_allNames hbase.proper hresult.proper)
  have hrebuilt : rebuild library final.entries = .ok canonical :=
    (rebuild_congr hfinal).trans hcanonical
  have hcount : ((allNames base.entries result.entries).filterMap
      (changeAt library.toSourceLibrary base.entries result.entries)).length ≤
      2 * maximumEntries := by
    calc _ ≤ (allNames base.entries result.entries).length := List.length_filterMap_le _ _
      _ ≤ Table.size base.entries + Table.size result.entries := length_allNames_le
      _ ≤ maximumEntries + maximumEntries := Nat.add_le_add hbase.count hresult.count
      _ = 2 * maximumEntries := (Nat.two_mul _).symm
  exact ⟨canonical,
    Applied.applyChanges hlaws ⟨hlength, hencoded, hloop, hrebuilt⟩ hcount,
    lookup_rebuild hlaws hresult.proper hcanonical⟩

/-- The file `f` with one byte. -/
def oneFile : SourceEntry :=
  { name := "f", kind := .file, content := [7] }

/-- The document that adds `oneFile` to an empty tree. -/
def addOneFile : ChangeDocument :=
  { contract := changeSetContract, baseArchiveDigest := "sha256:0", resultArchiveDigest := "sha256:1"
    changes := some [{ path := "f", after := some { kind := "file", content := [7] } }] }

/-- A library that knows the archives of the empty tree and of `oneFile`, and one document. -/
def smallLibrary : ChangeLibrary where
  readTar archive :=
    { items := if archive.length = 1024 then [] else [oneFile.item "f"], ending := some 0 }
  sha256Hex data := if data.length = 1024 then "0" else "1"
  writeTar items :=
    if items = [] then some (List.replicate 1024 0)
    else if items = [oneFile.item "f"] then some (List.replicate 1536 0)
    else none
  marshal document := if document = addOneFile then some [1] else none
  unmarshal encoded := if encoded = [1] then some addOneFile else none

lemma smallLibrary_roundTrips : smallLibrary.RoundTrips := by
  refine ⟨fun entries _ archive harchive => ?_, fun document encoded hencoded => ?_⟩
  · simp only [smallLibrary] at harchive ⊢
    split at harchive
    · rename_i hitems
      cases harchive
      rw [hitems, List.length_replicate, if_pos rfl]
      exact .nil
    split at harchive
    · rename_i hitems
      cases harchive
      rw [hitems, List.length_replicate, if_neg (by decide)]
      exact .cons ⟨rfl, rfl⟩ .nil
    · cases harchive
  · simp only [smallLibrary] at hencoded ⊢
    split at hencoded
    · rename_i hdocument
      cases hencoded
      exact ⟨List.cons_ne_nil _ _, by rw [if_pos rfl, hdocument]⟩
    · cases hencoded

/-- The snapshot of an archive of `smallLibrary`. -/
def smallSnapshot (size : ℕ) (digest : String) : Snapshot :=
  (inspect smallLibrary.toSourceLibrary (List.replicate size 0) digest).toOption.getD
    ⟨[], ∅, [], ⟨"", "", 0, 0⟩⟩

lemma smallLibrary_yields_empty : smallLibrary.Yields (smallSnapshot 1024 "sha256:0") :=
  ⟨_, _, eq_ok_of_isSome _ (by decide +kernel)⟩

lemma smallLibrary_yields_oneFile : smallLibrary.Yields (smallSnapshot 1536 "sha256:1") :=
  ⟨_, _, eq_ok_of_isSome _ (by decide +kernel)⟩

/-- The file is added to the empty tree by a document of one byte. -/
theorem changes_applied_to_empty :
    ∃ changes rebuilt,
      compare smallLibrary (smallSnapshot 1024 "sha256:0") (smallSnapshot 1536 "sha256:1") =
        .ok changes ∧ changes.encoded = [1] ∧
      applyChanges smallLibrary (smallSnapshot 1024 "sha256:0") changes.encoded
        (workspaceDigest smallLibrary.toSourceLibrary changes.encoded) = .ok rebuilt ∧
      rebuilt.entries.lookup "f" = some oneFile := by
  have hcompare : ((compare smallLibrary (smallSnapshot 1024 "sha256:0")
      (smallSnapshot 1536 "sha256:1")).toOption.map ChangeSet.encoded) = some [1] := by
    decide +kernel
  have hfile : (smallSnapshot 1536 "sha256:1").entries.lookup "f" = some oneFile := by
    decide +kernel
  obtain ⟨changes, hchanges, hencoded⟩ := Option.map_eq_some_iff.mp hcompare
  have hok := toOption_eq_some.mp hchanges
  obtain ⟨rebuilt, happlied, hsame⟩ := changes_applied smallLibrary smallLibrary_roundTrips _ _
    smallLibrary_yields_empty smallLibrary_yields_oneFile changes hok
  exact ⟨changes, rebuilt, hok, hencoded, happlied, (hsame "f").trans hfile⟩

/-- What `ApplyChanges` accepts is what `Compare` computes. -/
lemma Applied.compare_eq (hlaws : library.RoundTrips) (hbase : library.Yields base)
    {changes : List FileChange} {final : Applying}
    (h : Applied library base encoded changes final result) :
    ∃ changeSet, compare library base result = .ok changeSet ∧ changeSet.encoded = encoded ∧
      changeSet.receipt.digest = workspaceDigest library.toSourceLibrary encoded := by
  obtain ⟨hdifference, hproper⟩ := isDifference_of_apply hbase.proper h.loop
  have hsame := lookup_rebuild hlaws hproper h.rebuilt
  have hresult : Entries.Proper result.entries := fun name entry hentry =>
    hproper ((hsame name).symm.trans hentry)
  have hchanges : (allNames base.entries result.entries).filterMap
      (changeAt library.toSourceLibrary base.entries result.entries) = changes :=
    (isDifference_allNames hbase.proper hresult).unique (hdifference.congr hsame)
  have hrebuilt : rebuild library result.entries = .ok result :=
    (rebuild_congr hsame).trans h.rebuilt
  refine ⟨⟨encoded, changeReceipt library.toSourceLibrary encoded
    { contract := changeSetContract, baseArchiveDigest := base.receipt.archiveDigest
      resultArchiveDigest := result.receipt.archiveDigest, changes := some changes }
    result.receipt⟩, ?_, rfl, rfl⟩
  rw [compare, bind_eq_ok]
  refine ⟨result, hrebuilt, ?_⟩
  dsimp only
  rw [hchanges, h.encoded]
  dsimp only
  rw [require_of_true h.length]
  rfl

/-- A document that `ApplyChanges` accepts is what `Compare` encodes for the base and the result, so
that `InspectChanges` accepts it too, and it is the only one with this result. -/
theorem accepted_changes_canonical (library : ChangeLibrary) (hlaws : library.RoundTrips)
    (base result : Snapshot) (hbase : library.Yields base) (encoded : Bytes) (digest : String)
    (h : applyChanges library base encoded digest = .ok result) :
    (∃ changes, compare library base result = .ok changes ∧ changes.encoded = encoded ∧
      inspectChanges library base encoded digest = .ok changes) ∧
    ∀ other otherDigest again, applyChanges library base other otherDigest = .ok again →
      (∀ name, again.entries.lookup name = result.entries.lookup name) → other = encoded := by
  obtain ⟨hdigest, _, _, happlied⟩ := applyChanges_eq_ok h
  obtain ⟨changeSet, hcompare, hencoded, hreceipt⟩ := happlied.compare_eq hlaws hbase
  refine ⟨⟨changeSet, hcompare, hencoded, ?_⟩, fun other otherDigest again hagain hsame => ?_⟩
  · rw [inspectChanges, bind_eq_ok]
    refine ⟨result, h, ?_⟩
    rw [bind_eq_ok]
    refine ⟨changeSet, hcompare, ?_⟩
    rw [require_of_true (hreceipt.trans hdigest)]
    rfl
  · obtain ⟨-, _, _, hother⟩ := applyChanges_eq_ok hagain
    obtain ⟨_, hcompare', hencoded', -⟩ := hother.compare_eq hlaws hbase
    rw [compare_congr hsame, hcompare] at hcompare'
    cases hcompare'
    exact hencoded'.symm.trans hencoded

/-- The document that adds the file to the empty tree is accepted, and canonical. -/
theorem accepted_changes_canonical_for_empty :
    ∃ result changes,
      applyChanges smallLibrary (smallSnapshot 1024 "sha256:0") [1] "sha256:1" = .ok result ∧
      inspectChanges smallLibrary (smallSnapshot 1024 "sha256:0") [1] "sha256:1" = .ok changes ∧
      changes.encoded = [1] := by
  have happlied : (applyChanges smallLibrary (smallSnapshot 1024 "sha256:0") [1]
      "sha256:1").toOption.isSome = true := by
    decide +kernel
  obtain ⟨result, hresult⟩ := Option.isSome_iff_exists.mp happlied
  have hok := toOption_eq_some.mp hresult
  obtain ⟨⟨changes, -, hencoded, hinspected⟩, -⟩ := accepted_changes_canonical smallLibrary
    smallLibrary_roundTrips _ result smallLibrary_yields_empty [1] "sha256:1" hok
  exact ⟨result, changes, hok, hinspected, hencoded⟩

end DataGround.Workspace
