import DataGround.Library.Run
import DataGround.Workspace.Changes
import DataGround.Workspace.Containment

/-!
# Change lists

`Compare` writes down a list of changes and `ApplyChanges` reads one.  Both are measured here against
what such a list is, `IsDifference`: one change at every name where two maps of entries differ, in the
order of the names.

* Two maps have one difference (`IsDifference.unique`), and `Compare` computes it
  (`isDifference_allNames`).
* The loop of `ApplyChanges` takes the base to the result along their difference, if the contents fit
  (`apply_difference`), and every list it accepts is the difference of the base and of what it
  computes (`isDifference_of_apply`).
* The digest of an entry is of bytes that determine the entry (`hashed_entries_agree`).
-/

namespace DataGround.Workspace

open SlashPath Checks

variable {library : SourceLibrary} {base result : Entries}

/-! ### Entries -/

lemma sameSourceEntry_iff {left right : SourceEntry} (hname : left.name = right.name) :
    sameSourceEntry left right = true ↔ left = right := by
  cases left
  cases right
  simp only [sameSourceEntry, Bool.and_eq_true, decide_eq_true_eq, SourceEntry.mk.injEq] at hname ⊢
  constructor
  · rintro ⟨⟨⟨hkind, hexecutable⟩, htarget⟩, hcontent⟩
    exact ⟨hname, hkind, hexecutable, hcontent, htarget⟩
  · rintro ⟨-, hkind, hexecutable, hcontent, htarget⟩
    exact ⟨⟨⟨hkind, hexecutable⟩, htarget⟩, hcontent⟩

/-- A proper entry survives as a node. -/
lemma entryFromNode_nodeFromEntry {entry : SourceEntry} (h : entry.Proper) :
    entryFromNode entry.name (nodeFromEntry entry) = some entry := by
  obtain ⟨_, kind, _, _, target⟩ := entry
  cases kind with
  | file =>
    obtain rfl : target = "" := h.file rfl
    rfl
  | directory =>
    obtain ⟨rfl, rfl, rfl⟩ := h.directory rfl
    rfl
  | symlink =>
    obtain ⟨rfl, rfl, htarget⟩ := h.symlink rfl
    have hvalid : validLinkText target = true := htarget
    simp [entryFromNode, nodeFromEntry, hvalid]

variable {name : String}

/-- A node that is accepted is that of the entry it yields. -/
lemma entryFromNode_eq_some {node : ChangeNode} {entry : SourceEntry} (hname : ValidPath name)
    (h : entryFromNode name node = some entry) :
    nodeFromEntry entry = node ∧ entry.name = name ∧ entry.Proper := by
  obtain ⟨_, executable, _, target⟩ := node
  unfold entryFromNode at h
  dsimp only at h
  split at h
  · rename_i hkind
    split at h
    · cases h
    · rename_i htarget
      cases h
      obtain rfl : target = "" := not_not.mp htarget
      exact ⟨by rw [hkind]; rfl, rfl, hname, fun _ => rfl, fun hk => (nomatch hk),
        fun hk => (nomatch hk)⟩
  split at h
  · rename_i hkind
    split at h
    · cases h
    · rename_i hfields
      cases h
      push Not at hfields
      obtain ⟨rfl, hexecutable, rfl⟩ := hfields
      obtain rfl : executable = false := Bool.eq_false_iff.mpr hexecutable
      exact ⟨by rw [hkind]; rfl, rfl, properDirectory hname⟩
  split at h
  · rename_i hkind
    split at h
    · cases h
    · rename_i hfields
      cases h
      push Not at hfields
      obtain ⟨htarget, hexecutable, rfl⟩ := hfields
      obtain rfl : executable = false := Bool.eq_false_iff.mpr hexecutable
      exact ⟨by rw [hkind]; rfl, rfl, hname, fun hk => (nomatch hk), fun hk => (nomatch hk),
        fun _ => ⟨rfl, rfl, htarget⟩⟩
  · cases h

/-! ### The change at a name -/

variable {change : FileChange}

lemma path_of_changeAt (h : changeAt library base result name = some change) : change.path = name := by
  rw [changeAt] at h
  split at h
  · cases h
  · cases h
    rfl

variable {other : Entries}

/-- The change at a name depends on the entries there only. -/
lemma changeAt_congr (h : other.lookup name = result.lookup name) :
    changeAt library base other name = changeAt library base result name := by
  rw [changeAt, changeAt, h]

/-- There is no change where proper maps have the same entry. -/
lemma changeAt_eq_none_iff (hbase : Entries.Proper base) (hresult : Entries.Proper result) :
    changeAt library base result name = none ↔
      ∃ entry, base.lookup name = some entry ∧ result.lookup name = some entry := by
  rw [changeAt]
  cases hbefore : base.lookup name with
  | none => simp
  | some before =>
    cases hafter : result.lookup name with
    | none => simp
    | some after =>
      have hnames : before.name = after.name :=
        (hbase hbefore).1.trans (hresult hafter).1.symm
      simp only [Option.any_some, ite_eq_left_iff, reduceCtorEq, imp_false, not_not,
        sameSourceEntry_iff hnames, Option.some.injEq]
      exact ⟨fun h => ⟨before, rfl, h.symm⟩, fun ⟨_, h₁, h₂⟩ => h₁.trans h₂.symm⟩

/-! ### Differences -/

/-- One change at every name where the maps differ, in the order of the names. -/
structure IsDifference (library : SourceLibrary) (base result : Entries) (changes : List FileChange) :
    Prop where
  sorted : (changes.map FileChange.path).Pairwise (· < ·)
  change : ∀ change ∈ changes, changeAt library base result change.path = some change
  differs : ∀ name, name ∈ changes.map FileChange.path ↔ base.lookup name ≠ result.lookup name

/-- Strictly sorted lists with the same members are the same. -/
lemma eq_of_pairwise_lt {first second : List String} (hfirst : first.Pairwise (· < ·))
    (hsecond : second.Pairwise (· < ·)) (h : ∀ name, name ∈ first ↔ name ∈ second) :
    first = second := by
  have hperm : first.Perm second :=
    (List.perm_ext_iff_of_nodup (hfirst.imp ne_of_lt) (hsecond.imp ne_of_lt)).mpr h
  exact hperm.eq_of_pairwise (fun _ _ _ _ hlt hgt => absurd hgt hlt.asymm) hfirst hsecond

/-- Two maps have one difference. -/
theorem IsDifference.unique {changes others : List FileChange}
    (h : IsDifference library base result changes) (hothers : IsDifference library base result others) :
    changes = others := by
  have hpaths : changes.map FileChange.path = others.map FileChange.path :=
    eq_of_pairwise_lt h.sorted hothers.sorted fun name =>
      (h.differs name).trans (hothers.differs name).symm
  -- A change is determined by its path.
  have hdetermined : ∀ {list : List FileChange}, IsDifference library base result list →
      (list.map FileChange.path).map (changeAt library base result) = list.map some := by
    intro list hlist
    rw [List.map_map]
    exact List.map_congr_left hlist.change
  have hsome : changes.map some = others.map some := by
    rw [← hdetermined h, hpaths, hdetermined hothers]
  exact List.map_injective_iff.mpr (Option.some_injective _) hsome

variable {changes : List FileChange}

lemma IsDifference.congr (h : IsDifference library base result changes)
    (hsame : ∀ name, other.lookup name = result.lookup name) :
    IsDifference library base other changes := by
  refine ⟨h.sorted, fun change hchange => ?_, fun name => ?_⟩
  · rw [changeAt_congr (hsame _), h.change change hchange]
  · rw [hsame name, h.differs name]

/-! ### Comparing -/

lemma mem_allNames : name ∈ allNames base result ↔ name ∈ base ∨ name ∈ result := by
  rw [allNames, List.mem_insertionSort, List.mem_dedup, List.mem_append]
  exact Iff.rfl

lemma allNames_sorted : (allNames base result).Pairwise (· < ·) := by
  have hle : (allNames base result).Pairwise (· ≤ ·) := List.pairwise_insertionSort _ _
  have hne : (allNames base result).Pairwise (· ≠ ·) :=
    (List.perm_insertionSort _ _).nodup_iff.mpr (List.nodup_dedup _)
  exact (hle.and hne).imp fun h => lt_of_le_of_ne h.1 h.2

lemma length_allNames_le : (allNames base result).length ≤ Table.size base + Table.size result := by
  rw [allNames, List.length_insertionSort]
  refine (List.dedup_sublist _).length_le.trans ?_
  rw [List.length_append, Table.size, Table.size]

/-- The paths of the changes at some names are those of the names at which there is one. -/
lemma map_path_filterMap (names : List String) :
    (names.filterMap (changeAt library base result)).map FileChange.path =
      names.filter fun name => (changeAt library base result name).isSome := by
  induction names with
  | nil => rfl
  | cons name _ ih =>
    cases hchange : changeAt library base result name with
    | none => simp [hchange, ih]
    | some => simp [hchange, ih, path_of_changeAt hchange]

/-- The list that `Compare` computes is the difference. -/
theorem isDifference_allNames (hbase : Entries.Proper base) (hresult : Entries.Proper result) :
    IsDifference library base result
      ((allNames base result).filterMap (changeAt library base result)) := by
  refine ⟨?_, fun change hchange => ?_, fun name => ?_⟩
  · rw [map_path_filterMap]
    exact allNames_sorted.filter _
  · obtain ⟨name, -, hname⟩ := List.mem_filterMap.mp hchange
    rw [path_of_changeAt hname, hname]
  · rw [map_path_filterMap, List.mem_filter, mem_allNames, Option.isSome_iff_ne_none, Ne,
      changeAt_eq_none_iff hbase hresult, ← AList.lookup_isSome, ← AList.lookup_isSome]
    cases base.lookup name <;> cases result.lookup name <;> simp [eq_comm]

/-! ### Applying -/

/-- The bytes that a change brings. -/
def FileChange.bytes (change : FileChange) : ℕ :=
  change.after.elim 0 fun node => node.content.length

/-- What one turn of the loop does: at the path of the change the new entries are those of the
change, everywhere else they are as before. -/
structure Turn (library : SourceLibrary) (base : Entries) (applying next : Applying)
    (change : FileChange) (after : Option SourceEntry) : Prop where
  path : ValidPath change.path
  sorted : applying.previous < change.path
  previous : next.previous = change.path
  here : next.entries.lookup change.path = after
  elsewhere : ∀ name, name ≠ change.path → next.entries.lookup name = applying.entries.lookup name
  proper : ∀ entry, after = some entry → entry.name = change.path ∧ entry.Proper
  written : change = { path := change.path
                       before := (base.lookup change.path).elim "" (sourceEntryDigest library)
                       after := after.map nodeFromEntry }
  differs : base.lookup change.path ≠ after
  notSame : (base.lookup change.path).any
    (fun before => after.any fun entry => sameSourceEntry before entry) = false

lemma Applying.next_cases {applying next : Applying}
    (h : applying.next library base change = .ok next) :
    ∃ after, Turn library base applying next change after := by
  obtain ⟨path, _, node⟩ := change
  unfold Applying.next at h
  dsimp only at h
  rw [require_bind_eq_ok, require_bind_eq_ok, require_bind_eq_ok] at h
  obtain ⟨⟨hpath, hsorted⟩, rfl, hsome, h⟩ := h
  have hvalid : ValidPath path := validSourcePath_iff.mp hpath
  cases node with
  | none =>
    cases h
    refine ⟨none, hvalid, hsorted, rfl, AList.lookup_erase _ _, fun name hname =>
      AList.lookup_erase_ne hname, fun _ he => (nomatch he), rfl, fun heq => ?_, ?_⟩
    · rw [heq] at hsome
      exact hsome.elim (fun hs => (nomatch hs)) fun hs => (nomatch hs)
    · cases base.lookup path <;> rfl
  | some node =>
    dsimp only at h
    cases hentry : entryFromNode path node with
    | none =>
      rw [hentry] at h
      cases h
    | some entry =>
      rw [hentry] at h
      dsimp only at h
      rw [require_bind_eq_ok, require_bind_eq_ok] at h
      obtain ⟨hsame, -, h⟩ := h
      cases h
      obtain ⟨hnode, hname, hproper⟩ := entryFromNode_eq_some hvalid hentry
      refine ⟨some entry, hvalid, hsorted, rfl, AList.lookup_insert _, fun name hne =>
        AList.lookup_insert_ne hne, fun _ he => ?_, by rw [Option.map_some, hnode], fun heq => ?_,
        hsame⟩
      · cases he
        exact ⟨hname, hproper⟩
      · rw [heq, Option.any_some, (sameSourceEntry_iff rfl).mpr rfl] at hsame
        cases hsame

/-- What a run of the loop over the changes has done, from any state on. -/
structure Turns (library : SourceLibrary) (base : Entries) (applying final : Applying)
    (changes : List FileChange) : Prop where
  sorted : (changes.map FileChange.path).Pairwise (· < ·)
  later : ∀ path ∈ changes.map FileChange.path, applying.previous < path
  elsewhere : ∀ name, name ∉ changes.map FileChange.path →
    final.entries.lookup name = applying.entries.lookup name
  change : ∀ change ∈ changes, changeAt library base final.entries change.path = some change
  differs : ∀ change ∈ changes, base.lookup change.path ≠ final.entries.lookup change.path
  proper : ∀ change ∈ changes, ∀ entry, final.entries.lookup change.path = some entry →
    entry.name = change.path ∧ entry.Proper

lemma turns_of_foldlM {applying final : Applying}
    (h : changes.foldlM (Applying.next library base) applying = .ok final) :
    Turns library base applying final changes := by
  induction changes generalizing applying with
  | nil =>
    cases h
    exact ⟨.nil, fun _ h => (nomatch h), fun _ _ => rfl, fun _ h => (nomatch h),
      fun _ h => (nomatch h), fun _ h => (nomatch h)⟩
  | cons change changes ih =>
    rw [List.foldlM_cons, bind_eq_ok] at h
    obtain ⟨_, hnext, hrest⟩ := h
    obtain ⟨after, hturn⟩ := Applying.next_cases hnext
    have hturns := ih hrest
    have hlater : ∀ path ∈ changes.map FileChange.path, change.path < path := by
      intro path hmem
      rw [← hturn.previous]
      exact hturns.later path hmem
    -- The later changes have later paths, so that they leave this one alone.
    have hhere : final.entries.lookup change.path = after := by
      rw [hturns.elsewhere _ fun hmem => (hlater _ hmem).false, hturn.here]
    refine ⟨List.pairwise_cons.mpr ⟨hlater, hturns.sorted⟩, ?_, ?_, ?_, ?_, ?_⟩
    · intro path hmem
      rcases List.mem_cons.mp hmem with rfl | hmem
      · exact hturn.sorted
      · exact hturn.sorted.trans (hlater path hmem)
    · intro name hmem
      obtain ⟨hne, hrest⟩ := not_or.mp (mt List.mem_cons.mpr hmem)
      rw [hturns.elsewhere name hrest, hturn.elsewhere name hne]
    · intro other hmem
      rcases List.mem_cons.mp hmem with rfl | hmem
      · rw [changeAt, hhere, hturn.notSame, if_neg (by decide)]
        exact congrArg some hturn.written.symm
      · exact hturns.change other hmem
    · intro other hmem
      rcases List.mem_cons.mp hmem with rfl | hmem
      · exact hhere ▸ hturn.differs
      · exact hturns.differs other hmem
    · intro other hmem
      rcases List.mem_cons.mp hmem with rfl | hmem
      · exact fun entry hentry => hturn.proper entry (hhere.symm.trans hentry)
      · exact hturns.proper other hmem

/-- Every list that the loop accepts is the difference of the base and of what it computes, which is
proper. -/
theorem isDifference_of_apply {final : Applying} (hbase : Entries.Proper base)
    (h : changes.foldlM (Applying.next library base) { entries := base } = .ok final) :
    IsDifference library base final.entries changes ∧ Entries.Proper final.entries := by
  have hturns := turns_of_foldlM h
  constructor
  · refine ⟨hturns.sorted, hturns.change, fun name => ⟨fun hmem => ?_, fun hne => ?_⟩⟩
    · obtain ⟨change, hchange, rfl⟩ := List.mem_map.mp hmem
      exact hturns.differs change hchange
    · by_contra hmem
      exact hne (hturns.elsewhere name hmem).symm
  · intro name entry hentry
    by_cases hmem : name ∈ changes.map FileChange.path
    · obtain ⟨change, hchange, rfl⟩ := List.mem_map.mp hmem
      exact hturns.proper change hchange entry hentry
    · rw [hturns.elsewhere name hmem] at hentry
      exact hbase hentry

/-- A difference determines where it leads to. -/
lemma IsDifference.leadsTo (hresult : Entries.Proper result) (hother : Entries.Proper other)
    (h : IsDifference library base result changes) (hdiff : IsDifference library base other changes)
    (name : String) : other.lookup name = result.lookup name := by
  by_cases hmem : name ∈ changes.map FileChange.path
  · obtain ⟨change, hchange, rfl⟩ := List.mem_map.mp hmem
    have hafter : ∀ {entries : Entries}, Entries.Proper entries →
        IsDifference library base entries changes →
        entries.lookup change.path = change.after.bind (entryFromNode change.path) := by
      intro entries hproper hdifference
      have hwritten := hdifference.change change hchange
      rw [changeAt] at hwritten
      split at hwritten
      · cases hwritten
      · have hnode : (entries.lookup change.path).map nodeFromEntry = change.after :=
          congrArg FileChange.after (Option.some.inj hwritten)
        rw [← hnode]
        cases hentry : entries.lookup change.path with
        | none => rfl
        | some =>
          obtain ⟨hname, hentry⟩ := hproper hentry
          rw [Option.map_some, Option.bind_some, ← hname, entryFromNode_nodeFromEntry hentry]
    rw [hafter hother hdiff, hafter hresult h]
  · have hsame := not_not.mp (mt (h.differs name).mpr hmem)
    have hsame' := not_not.mp (mt (hdiff.differs name).mpr hmem)
    exact hsame'.symm.trans hsame

/-- Where proper maps differ there is a valid name. -/
lemma validPath_of_differs (hbase : Entries.Proper base) (hresult : Entries.Proper result)
    (h : base.lookup name ≠ result.lookup name) : ValidPath name := by
  cases hbefore : base.lookup name with
  | some => exact hbase.validPath (Table.mem_of_lookup hbefore)
  | none =>
    rw [hbefore] at h
    exact hresult.validPath (AList.lookup_isSome.mp (Option.isSome_iff_ne_none.mpr h.symm))

/-- A change from the base to a proper result is accepted if its path comes after the previous one and
its content fits. -/
lemma Applying.next_of_changeAt (hbase : Entries.Proper base) (hresult : Entries.Proper result)
    {applying : Applying} (hchange : changeAt library base result change.path = some change)
    (hdiffers : base.lookup change.path ≠ result.lookup change.path)
    (hsorted : applying.previous < change.path)
    (hbudget : applying.replacementBytes + change.bytes ≤ maximumSourceBytes) :
    ∃ next, applying.next library base change = .ok next ∧ next.previous = change.path ∧
      next.replacementBytes = applying.replacementBytes + change.bytes := by
  have hpath : validSourcePath change.path = true :=
    validSourcePath_iff.mpr (validPath_of_differs hbase hresult hdiffers)
  rw [changeAt] at hchange
  split at hchange
  · cases hchange
  rename_i hsame
  have hwritten := (Option.some.inj hchange).symm
  have hbefore := congrArg FileChange.before hwritten
  have hafter := congrArg FileChange.after hwritten
  dsimp only at hbefore hafter
  unfold Applying.next
  dsimp only
  rw [require_of_true ⟨hpath, hsorted⟩, require_of_true hbefore]
  cases hlookup : result.lookup change.path with
  | none =>
    rw [hlookup, Option.map_none] at hafter
    have hsome : (base.lookup change.path).isSome = true := by
      rw [hlookup] at hdiffers
      exact Option.isSome_iff_ne_none.mpr hdiffers
    rw [require_of_true (.inl hsome), hafter]
    refine ⟨_, rfl, rfl, ?_⟩
    rw [FileChange.bytes, hafter]
    rfl
  | some entry =>
    obtain ⟨hname, hproper⟩ := hresult hlookup
    rw [hlookup, Option.map_some] at hafter
    rw [hlookup] at hsame
    have hbytes : change.bytes = entry.content.length := by
      rw [FileChange.bytes, hafter, Option.elim_some]
      cases hkind : entry.kind with
      | file => rw [nodeFromEntry, hkind]
      | directory => rw [nodeFromEntry, hkind, (hproper.directory hkind).2.1]
      | symlink => rw [nodeFromEntry, hkind, (hproper.symlink hkind).2.1]
    have hentry : entryFromNode change.path (nodeFromEntry entry) = some entry := by
      rw [← hname]
      exact entryFromNode_nodeFromEntry hproper
    rw [hbytes] at hbudget
    rw [require_of_true (.inr (by rw [hafter]; rfl)), hafter]
    dsimp only
    rw [hentry]
    dsimp only
    rw [require_of_true (by simpa using hsame), require_of_true hbudget]
    exact ⟨_, rfl, rfl, by rw [hbytes]⟩

lemma exists_foldlM_next (hbase : Entries.Proper base) (hresult : Entries.Proper result)
    {applying : Applying}
    (hchanges : ∀ change ∈ changes, changeAt library base result change.path = some change ∧
      base.lookup change.path ≠ result.lookup change.path)
    (hsorted : (changes.map FileChange.path).Pairwise (· < ·))
    (hlater : ∀ path ∈ changes.map FileChange.path, applying.previous < path)
    (hbudget : applying.replacementBytes + (changes.map FileChange.bytes).sum ≤ maximumSourceBytes) :
    ∃ final, changes.foldlM (Applying.next library base) applying = .ok final := by
  induction changes generalizing applying with
  | nil => exact ⟨applying, rfl⟩
  | cons change _ ih =>
    rw [List.map_cons, List.sum_cons, ← Nat.add_assoc] at hbudget
    obtain ⟨_, hrest⟩ := List.pairwise_cons.mp hsorted
    obtain ⟨hchange, hdiffers⟩ := hchanges change List.mem_cons_self
    obtain ⟨next, hnext, hprevious, hbytes⟩ :=
      Applying.next_of_changeAt hbase hresult hchange hdiffers
        (hlater change.path List.mem_cons_self) (by omega)
    obtain ⟨final, hfinal⟩ :=
      ih (fun other hother => hchanges other (List.mem_cons_of_mem _ hother)) hrest
        (by rwa [hprevious]) (by rwa [hbytes])
    refine ⟨final, ?_⟩
    rw [List.foldlM_cons, bind_eq_ok]
    exact ⟨next, hnext, hfinal⟩

/-- The contents that a difference brings are contents of the result. -/
lemma IsDifference.sum_bytes_le (h : IsDifference library base result changes) :
    (changes.map FileChange.bytes).sum ≤ contentBytes result := by
  have hle : (changes.map FileChange.bytes).sum ≤ ((changes.map FileChange.path).map fun name =>
      (result.lookup name).elim 0 fun entry => entry.content.length).sum := by
    rw [List.map_map]
    refine List.sum_le_sum fun change hchange => ?_
    have hwritten := h.change change hchange
    rw [changeAt] at hwritten
    split at hwritten
    · cases hwritten
    · rw [← Option.some.inj hwritten, FileChange.bytes, Function.comp_apply]
      dsimp only
      cases result.lookup change.path with
      | none => exact le_rfl
      | some entry =>
        rw [Option.map_some, Option.elim_some, Option.elim_some, nodeFromEntry]
        cases entry.kind <;> simp
  refine hle.trans (Table.sum_lookup_le _ _ ?_)
  exact h.sorted.imp ne_of_lt

/-- The loop takes the base to the result along their difference. -/
theorem apply_difference (hbase : Entries.Proper base) (hresult : Entries.Proper result)
    (hcontent : contentBytes result ≤ maximumSourceBytes)
    (h : IsDifference library base result changes) :
    ∃ final, changes.foldlM (Applying.next library base) { entries := base } = .ok final ∧
      ∀ name, final.entries.lookup name = result.lookup name := by
  have hpositive : ∀ path ∈ changes.map FileChange.path, "" < path := by
    intro path hmem
    rw [String.lt_iff_toList_lt]
    have hvalid := validPath_of_differs hbase hresult ((h.differs path).mp hmem)
    cases hchars : path.toList with
    | nil => exact absurd (String.toList_inj.mp hchars) hvalid.nonempty
    | cons => exact List.nil_lt_cons _ _
  obtain ⟨final, hfinal⟩ :
      ∃ final, changes.foldlM (Applying.next library base) { entries := base } = .ok final := by
    refine exists_foldlM_next hbase hresult (fun change hchange => ?_) h.sorted hpositive ?_
    · exact ⟨h.change change hchange, (h.differs _).mp (List.mem_map_of_mem hchange)⟩
    · rw [Nat.zero_add]
      exact h.sum_bytes_le.trans hcontent
  obtain ⟨hdiff, hproper⟩ := isDifference_of_apply hbase hfinal
  exact ⟨final, hfinal, h.leadsTo hresult hproper hdiff⟩

/-! ### What is hashed of an entry -/

lemma toUTF8_toList_injective : Function.Injective fun text : String => text.toUTF8.toList := by
  have hloop : ∀ (bytes : ByteArray) i front, ByteArray.toList.loop bytes i front =
      front.reverse ++ bytes.data.toList.drop i := by
    intro bytes i front
    fun_induction ByteArray.toList.loop bytes i front with
    | case1 i front hlt ih =>
      have hnext : bytes.data.toList.drop i = bytes.get! i :: bytes.data.toList.drop (i + 1) := by
        rw [List.drop_eq_getElem_cons hlt, Array.getElem_toList]
        exact congrArg (· :: _) (getElem!_pos bytes.data i hlt).symm
      rw [ih, List.reverse_cons, List.append_assoc, List.singleton_append, hnext]
    | case2 i front hle =>
      rw [List.drop_of_length_le (Nat.not_lt.mp hle), List.append_nil]
  intro text other heq
  have hdata : text.toUTF8.data.toList = other.toUTF8.data.toList := by
    simpa [ByteArray.toList, hloop] using heq
  exact String.toByteArray_inj.mp (ByteArray.ext (Array.toList_inj.mp hdata))

/-- Proper entries of one kind have their target or their content empty, or both. -/
lemma SourceEntry.Proper.eq_of_hashedBytes {left right : SourceEntry} (hleft : left.Proper)
    (hright : right.Proper) (h : hashedBytes left = hashedBytes right) :
    left.kind = right.kind ∧ left.executable = right.executable ∧ left.target = right.target ∧
      left.content = right.content := by
  simp only [hashedBytes, List.append_assoc] at h
  obtain ⟨hbyte, hrest⟩ := List.append_inj (List.append_cancel_left h) rfl
  obtain ⟨hbit, hrest⟩ := List.append_inj hrest rfl
  have hkind : left.kind = right.kind := by
    revert hbyte
    cases left.kind <;> cases right.kind <;> decide
  have hexecutable : left.executable = right.executable := by
    revert hbit
    cases left.executable <;> cases right.executable <;> decide
  refine ⟨hkind, hexecutable, ?_⟩
  cases hof : left.kind with
  | file =>
    rw [hleft.file hof, hright.file (hkind ▸ hof)] at hrest ⊢
    exact ⟨rfl, List.tail_eq_of_cons_eq (List.append_cancel_left hrest)⟩
  | directory =>
    obtain ⟨-, hcontent, htarget⟩ := hleft.directory hof
    obtain ⟨-, hcontent', htarget'⟩ := hright.directory (hkind ▸ hof)
    exact ⟨htarget.trans htarget'.symm, hcontent.trans hcontent'.symm⟩
  | symlink =>
    obtain ⟨-, hcontent, -⟩ := hleft.symlink hof
    obtain ⟨-, hcontent', -⟩ := hright.symlink (hkind ▸ hof)
    rw [hcontent, hcontent'] at hrest ⊢
    exact ⟨toUTF8_toList_injective (List.append_cancel_right hrest), rfl⟩

/-- **What is hashed of an entry determines it**, up to its name: any two entries of snapshots that
`Inspect` returns, with the same bytes under their digests, agree in all that `sameSourceEntry`
compares. -/
theorem hashed_entries_agree (library : SourceLibrary) (archive archive' : Bytes)
    (digest digest' : String) (snapshot snapshot' : Snapshot)
    (h : inspect library archive digest = .ok snapshot)
    (h' : inspect library archive' digest' = .ok snapshot') (name name' : String)
    (left right : SourceEntry) (hleft : snapshot.entries.lookup name = some left)
    (hright : snapshot'.entries.lookup name' = some right) :
    (∀ entry, sourceEntryDigest library entry = workspaceDigest library (hashedBytes entry)) ∧
    (hashedBytes left = hashedBytes right →
      left.kind = right.kind ∧ left.executable = right.executable ∧ left.target = right.target ∧
        left.content = right.content) := by
  obtain ⟨_, hinspected⟩ := inspect_eq_ok h
  obtain ⟨_, hinspected'⟩ := inspect_eq_ok h'
  exact ⟨fun _ => rfl,
    (hinspected.grown.proper hleft).2.eq_of_hashedBytes (hinspected'.grown.proper hright).2⟩

/-- A file and a link to it are hashed from different bytes. -/
theorem hashed_entries_agree_of_link : ∃ snapshot left right,
    inspect twoEntries (List.replicate 1024 0) "sha256:" = .ok snapshot ∧
      snapshot.entries.lookup "f" = some left ∧ snapshot.entries.lookup "d/l" = some right ∧
      hashedBytes left ≠ hashedBytes right := by
  obtain ⟨snapshot, hsnapshot, left, hleft, right, hright, hkind⟩ : ∃ snapshot,
      (inspect twoEntries (List.replicate 1024 0) "sha256:").toOption = some snapshot ∧
      ∃ left, snapshot.entries.lookup "f" = some left ∧
      ∃ right, snapshot.entries.lookup "d/l" = some right ∧ left.kind ≠ right.kind := by
    decide +kernel
  have hok := toOption_eq_some.mp hsnapshot
  refine ⟨snapshot, left, right, hok, hleft, hright, fun heq => hkind ?_⟩
  exact ((hashed_entries_agree _ _ _ _ _ _ _ hok hok _ _ _ _ hleft hright).2 heq).1

end DataGround.Workspace
