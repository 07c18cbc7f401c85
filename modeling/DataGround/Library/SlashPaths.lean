import Mathlib.Data.List.Basic

/-!
# Paths written with slashes

A path is a text whose parts stand between slashes. `parts` takes it apart and `join` puts it
together: `join (parts path) = path` for every text, and `parts (join names) = names` for every
nonempty list of names without a slash.

`clean` and `dir` are the lexical operations of a path library: `clean` drops empty and `.` parts
and cancels `..` against the part before it, `dir` is the cleaned text up to the last slash. A
relative path that `clean` leaves alone and that has no `..` consists of plain names only
(`plain_of_clean`), and on such paths `dir` drops the last name (`dir_of_parts`), so that walking
up with `dir` meets exactly the proper parents (`mem_ancestors`).
-/

namespace SlashPath

/-- The texts between the slashes of a path: at least one, the whole text if there is no slash. -/
def parts (path : String) : List String :=
  (path.toList.splitOn '/').map String.ofList

/-- The path with the given parts. -/
def join (names : List String) : String :=
  String.ofList (['/'].intercalate (names.map String.toList))

/-- A part as `parts` yields it: it has no slash in it. -/
def IsPart (name : String) : Prop :=
  '/' ∉ name.toList

/-- A part that names a file: it is not empty, `.` or `..`. -/
def Plain (name : String) : Prop :=
  name ≠ "" ∧ name ≠ "." ∧ name ≠ ".."

instance (name : String) : Decidable (Plain name) :=
  inferInstanceAs (Decidable (_ ∧ _ ∧ _))

/-- Whether the path starts at the root of the file system. -/
def isAbs (path : String) : Bool :=
  path.toList.head? = some '/'

/-! ### Taking apart and putting together -/

lemma toList_join (names : List String) :
    (join names).toList = ['/'].intercalate (names.map String.toList) :=
  String.toList_ofList

lemma parts_ne_nil (path : String) : parts path ≠ [] := by
  rw [parts, Ne, List.map_eq_nil_iff]
  exact List.splitOn_ne_nil _ _

@[simp]
lemma join_parts (path : String) : join (parts path) = path := by
  have hmap : (parts path).map String.toList = path.toList.splitOn '/' := by
    rw [parts, List.map_map]
    exact (List.map_congr_left fun _ _ => String.toList_ofList).trans (List.map_id _)
  rw [join, hmap, List.intercalate_splitOn, String.ofList_toList]

variable {names : List String}

lemma parts_join (hnames : names ≠ []) (h : ∀ name ∈ names, IsPart name) :
    parts (join names) = names := by
  have hsplit : ((join names).toList.splitOn '/') = names.map String.toList := by
    rw [toList_join]
    refine List.splitOn_intercalate '/' ?_ (by simpa using hnames)
    rintro _ hmem
    obtain ⟨name, hname, rfl⟩ := List.mem_map.mp hmem
    exact h name hname
  rw [parts, hsplit, List.map_map]
  exact (List.map_congr_left fun _ _ => String.ofList_toList).trans (List.map_id _)

/-- The pieces of a split do not contain the separator. -/
lemma notMem_of_mem_splitOn {α : Type*} [DecidableEq α] {x : α} {xs piece : List α}
    (h : piece ∈ xs.splitOn x) : x ∉ piece := by
  induction xs generalizing piece with
  | nil =>
    rw [List.splitOn_nil, List.mem_singleton] at h
    rw [h]
    exact List.not_mem_nil
  | cons _ ys ih =>
    rw [List.splitOn_cons_eq_if_modifyHead] at h
    split at h
    · rcases List.mem_cons.mp h with rfl | hmem
      · exact List.not_mem_nil
      · exact ih hmem
    · rename_i hne
      cases hys : ys.splitOn x with
      | nil => exact absurd hys (List.splitOn_ne_nil x ys)
      | cons =>
        rw [hys, List.modifyHead_cons] at h
        rcases List.mem_cons.mp h with rfl | hmem
        · refine fun hmem => (List.mem_cons.mp hmem).elim ?_ (ih (hys ▸ List.mem_cons_self))
          rintro rfl
          exact hne (beq_self_eq_true x)
        · exact ih (hys ▸ List.mem_cons_of_mem _ hmem)

lemma isPart_of_mem_parts {path name : String} (h : name ∈ parts path) : IsPart name := by
  obtain ⟨_, hpiece, rfl⟩ := List.mem_map.mp h
  rw [IsPart, String.toList_ofList]
  exact notMem_of_mem_splitOn hpiece

/-- Two lists of parts that spell the same path are the same list. -/
lemma join_inj {first second : List String} (hfirst : first ≠ []) (hsecond : second ≠ [])
    (h₁ : ∀ name ∈ first, IsPart name) (h₂ : ∀ name ∈ second, IsPart name)
    (h : join first = join second) : first = second := by
  rw [← parts_join hfirst h₁, h, parts_join hsecond h₂]

/-- The path of two lists of parts is that of the first, a slash, and that of the second. -/
lemma join_append {front rest : List String} (hfront : front ≠ []) (hrest : rest ≠ []) :
    join (front ++ rest) = join front ++ ("/" ++ join rest) := by
  obtain ⟨_, _, rfl⟩ := List.exists_cons_of_ne_nil hrest
  rw [← String.toList_inj, String.toList_append, String.toList_append]
  simp only [toList_join, List.map_append, List.map_cons]
  induction front with
  | nil => exact absurd rfl hfront
  | cons _ names ih =>
    cases names with
    | nil => simp [List.intercalate_cons_cons]
    | cons =>
      have hrec := ih (List.cons_ne_nil _ _)
      simp only [List.map_cons, List.cons_append, List.intercalate_cons_cons] at hrec ⊢
      rw [hrec, List.append_assoc, List.append_assoc, List.append_assoc]

lemma join_singleton (name : String) : join [name] = name := by
  rw [join, List.map_singleton, List.intercalate_singleton, String.ofList_toList]

/-- A path whose first part is not empty is relative. -/
lemma isAbs_join {name : String} (hpart : IsPart name) (hne : name ≠ "") :
    isAbs (join (name :: names)) = false := by
  obtain ⟨c, cs, hname⟩ : ∃ c cs, name.toList = c :: cs := by
    cases hname : name.toList with
    | nil => exact absurd (String.toList_inj.mp hname) hne
    | cons c cs => exact ⟨c, cs, rfl⟩
  have hhead : (join (name :: names)).toList.head? = some c := by
    rw [toList_join, List.map_cons]
    cases names with
    | nil => rw [List.map_nil, List.intercalate_singleton, hname, List.head?_cons]
    | cons =>
      rw [List.map_cons, List.intercalate_cons_cons, hname, List.cons_append, List.cons_append,
        List.head?_cons]
  have hc : c ≠ '/' := by
    rintro rfl
    exact hpart (hname ▸ List.mem_cons_self)
  rw [isAbs, hhead]
  exact decide_eq_false fun h => hc (Option.some.inj h)

lemma join_ne_empty (hne : names ≠ []) (hpart : ∀ name ∈ names, IsPart name)
    (hplain : ∀ name ∈ names, Plain name) : join names ≠ "" := by
  intro h
  have hnames : names = [""] := by
    refine join_inj hne (List.cons_ne_nil _ _) hpart ?_ (h.trans (join_singleton "").symm)
    intro name hname
    rw [List.mem_singleton.mp hname]
    exact List.not_mem_nil
  exact (hplain "" (hnames ▸ List.mem_singleton_self _)).1 rfl

/-! ### Cleaning -/

/-- What one part does to the cleaned parts before it. -/
def cleanStep (rooted : Bool) (out : List String) (part : String) : List String :=
  if part = "" ∨ part = "." then out
  else if part = ".." then
    if out ≠ [] ∧ out.getLast? ≠ some ".." then out.dropLast
    else if rooted then out
    else out ++ [".."]
  else out ++ [part]

/-- The shortest path that is lexically the same. -/
def clean (path : String) : String :=
  if path = "" then "."
  else
    let out := (parts path).foldl (cleanStep (isAbs path)) []
    if isAbs path then "/" ++ join out
    else if out = [] then "."
    else join out

/-- The cleaned text up to the last slash, `.` if there is none. -/
def dir (path : String) : String :=
  match (parts path).dropLast with
  | [] => clean ""
  | front => clean (join (front ++ [""]))

lemma foldl_cleanStep {rooted : Bool} {names out : List String} (h : ∀ name ∈ names, name ≠ "..") :
    names.foldl (cleanStep rooted) out =
      out ++ names.filter fun name => name ≠ "" ∧ name ≠ "." := by
  induction names generalizing out with
  | nil => rw [List.foldl_nil, List.filter_nil, List.append_nil]
  | cons name _ ih =>
    rw [List.foldl_cons, ih fun n hn => h n (List.mem_cons_of_mem _ hn)]
    have hdots : name ≠ ".." := h name List.mem_cons_self
    by_cases hskip : name = "" ∨ name = "."
    · have hdrop : ¬ (name ≠ "" ∧ name ≠ ".") := fun hne => hskip.elim hne.1 hne.2
      rw [cleanStep, if_pos hskip, List.filter_cons_of_neg (by simpa using hdrop)]
    · have hkeep : name ≠ "" ∧ name ≠ "." := not_or.mp hskip
      rw [cleanStep, if_neg hskip, if_neg hdots,
        List.filter_cons_of_pos (by simpa using hkeep), List.append_assoc, List.singleton_append]

/-- A relative path without `..` that is already clean has plain parts only. -/
theorem plain_of_clean {path : String} (hempty : path ≠ "") (hdot : path ≠ ".")
    (hrel : isAbs path = false) (hclean : clean path = path)
    (hdots : ∀ name ∈ parts path, name ≠ "..") : ∀ name ∈ parts path, Plain name := by
  set kept := (parts path).filter fun name => name ≠ "" ∧ name ≠ "." with hkept
  have hfold : (parts path).foldl (cleanStep (isAbs path)) [] = kept := by
    rw [foldl_cleanStep hdots, List.nil_append]
  rw [clean, if_neg hempty, hfold, hrel, if_neg (by decide)] at hclean
  have hne : kept ≠ [] := fun hnil => hdot (by rw [← hclean, if_pos hnil])
  rw [if_neg hne] at hclean
  have hparts : parts path = kept := by
    refine join_inj (parts_ne_nil path) hne (fun name => isPart_of_mem_parts) ?_ ?_
    · exact fun name hname => isPart_of_mem_parts (List.mem_of_mem_filter hname)
    · rw [join_parts, hclean]
  intro name hname
  have hmem := hname
  rw [hparts, hkept, List.mem_filter, decide_eq_true_iff] at hmem
  exact ⟨hmem.2.1, hmem.2.2, hdots name hname⟩

/-- Plain parts make a clean path. -/
lemma clean_join (hne : names ≠ []) (hpart : ∀ name ∈ names, IsPart name)
    (hplain : ∀ name ∈ names, Plain name) : clean (join names) = join names := by
  obtain ⟨name, rest, rfl⟩ := List.exists_cons_of_ne_nil hne
  have hrel : isAbs (join (name :: rest)) = false :=
    isAbs_join (hpart name List.mem_cons_self) (hplain name List.mem_cons_self).1
  have hkept : (name :: rest).filter (fun part => part ≠ "" ∧ part ≠ ".") = name :: rest :=
    List.filter_eq_self.mpr fun part hmem =>
      decide_eq_true ⟨(hplain part hmem).1, (hplain part hmem).2.1⟩
  have hfold : (parts (join (name :: rest))).foldl (cleanStep false) [] = name :: rest := by
    rw [parts_join hne hpart, foldl_cleanStep fun part hmem => (hplain part hmem).2.2, hkept,
      List.nil_append]
  rw [clean, if_neg (join_ne_empty hne hpart hplain), hrel, hfold, if_neg (by decide), if_neg hne]

/-! ### Walking up -/

lemma join_ne_dot (hne : names ≠ []) (hpart : ∀ name ∈ names, IsPart name)
    (hplain : ∀ name ∈ names, Plain name) : join names ≠ "." := by
  intro h
  have hnames : names = ["."] := by
    refine join_inj hne (List.cons_ne_nil _ _) hpart ?_ (h.trans (join_singleton ".").symm)
    intro name hname
    rw [List.mem_singleton.mp hname]
    exact show '/' ∉ ['.'] by decide
  exact (hplain "." (hnames ▸ List.mem_singleton_self _)).2.1 rfl

/-- On plain parts `dir` drops the last one. -/
lemma dir_of_parts {path last : String} {front : List String} (h : parts path = front ++ [last])
    (hplain : ∀ name ∈ front, Plain name) :
    dir path = if front = [] then "." else join front := by
  rw [dir, h, List.dropLast_concat]
  cases front with
  | nil => rfl
  | cons name names =>
    have hpart : ∀ part ∈ name :: names, IsPart part := fun part hmem =>
      isPart_of_mem_parts (h ▸ List.mem_append_left _ hmem)
    have hparts : parts (join (name :: names ++ [""])) = name :: names ++ [""] := by
      refine parts_join (List.cons_ne_nil _ _) fun part hmem => ?_
      rcases List.mem_append.mp hmem with hfront | hlast
      · exact hpart part hfront
      · rw [List.mem_singleton.mp hlast]
        exact List.not_mem_nil
    have hne : join (name :: names ++ [""]) ≠ "" := by
      intro hempty
      rw [hempty] at hparts
      have hlength := congrArg List.length hparts
      rw [show parts "" = [""] from rfl] at hlength
      simp at hlength
    have hkept : (name :: names).filter (fun part => part ≠ "" ∧ part ≠ ".") = name :: names :=
      List.filter_eq_self.mpr fun part hmem =>
        decide_eq_true ⟨(hplain part hmem).1, (hplain part hmem).2.1⟩
    have hdots : ∀ part ∈ name :: names ++ [""], part ≠ ".." := by
      intro part hmem
      rcases List.mem_append.mp hmem with hfront | hlast
      · exact (hplain part hfront).2.2
      · rw [List.mem_singleton.mp hlast]
        decide
    have hrel : isAbs (join (name :: names ++ [""])) = false :=
      isAbs_join (hpart name List.mem_cons_self) (hplain name List.mem_cons_self).1
    dsimp only
    rw [clean, if_neg hne, hparts, foldl_cleanStep hdots, hrel, List.filter_append, hkept]
    simp

/-- The paths met by applying `dir` until it says `.`, at most `fuel` of them. -/
def ancestors : ℕ → String → List String
  | 0, _ => []
  | fuel + 1, path =>
    if dir path = "." then [] else dir path :: ancestors fuel (dir path)

/-- `above` is a proper parent of `path`: it consists of some, but not all, of its first parts. -/
def IsParent (above path : String) : Prop :=
  ∃ front rest, front ≠ [] ∧ rest ≠ [] ∧ parts path = front ++ rest ∧ above = join front

lemma IsParent.trans {high above path : String} (h : IsParent high above)
    (habove : IsParent above path) : IsParent high path := by
  obtain ⟨front, rest, hfront, _, hparts, rfl⟩ := habove
  obtain ⟨first, second, hfirst, hsecond, hsplit, rfl⟩ := h
  have hup : parts (join front) = front :=
    parts_join hfront fun name hname =>
      isPart_of_mem_parts (hparts ▸ List.mem_append_left _ hname)
  refine ⟨first, second ++ rest, hfirst, List.append_ne_nil_of_left_ne_nil hsecond _, ?_, rfl⟩
  rw [hparts, ← List.append_assoc, ← hsplit, hup]

/-- Walking up from a path of plain parts meets exactly its proper parents. -/
theorem mem_ancestors {path above : String} {fuel : ℕ} (hplain : ∀ name ∈ parts path, Plain name)
    (hfuel : (parts path).length ≤ fuel) : above ∈ ancestors fuel path ↔ IsParent above path := by
  induction fuel generalizing path with
  | zero => exact absurd (List.eq_nil_of_length_eq_zero (Nat.le_zero.mp hfuel)) (parts_ne_nil path)
  | succ fuel ih =>
    obtain ⟨front, last, hparts⟩ : ∃ front last, parts path = front ++ [last] :=
      ⟨_, _, (List.dropLast_append_getLast (parts_ne_nil path)).symm⟩
    have hfront : ∀ name ∈ front, Plain name := fun name hname =>
      hplain name (hparts ▸ List.mem_append_left _ hname)
    rw [ancestors, dir_of_parts hparts hfront]
    by_cases hnil : front = []
    · -- One part: there is nothing above it.
      rw [if_pos hnil, if_pos rfl]
      refine iff_of_false List.not_mem_nil ?_
      rintro ⟨first, rest, hfirst, hrest, hsplit, -⟩
      have hlength := congrArg List.length (hsplit.symm.trans hparts)
      have := List.length_pos_of_ne_nil hfirst
      have := List.length_pos_of_ne_nil hrest
      simp only [hnil, List.length_append, List.length_nil, List.length_singleton] at hlength
      omega
    · have hpart : ∀ name ∈ front, IsPart name := fun name hname =>
        isPart_of_mem_parts (hparts ▸ List.mem_append_left _ hname)
      have hup : parts (join front) = front := parts_join hnil hpart
      have hless : (parts (join front)).length ≤ fuel := by
        rw [hparts, List.length_append, List.length_singleton] at hfuel
        rw [hup]
        omega
      rw [if_neg hnil, if_neg (join_ne_dot hnil hpart hfront), List.mem_cons,
        ih (hup.symm ▸ hfront) hless]
      have hparent : IsParent (join front) path :=
        ⟨front, [last], hnil, List.cons_ne_nil _ _, hparts, rfl⟩
      constructor
      · rintro (rfl | habove)
        · exact hparent
        · exact habove.trans hparent
      · rintro ⟨first, rest, hfirst, hrest, hsplit, rfl⟩
        obtain ⟨others, final, rfl⟩ : ∃ others final, rest = others ++ [final] :=
          ⟨_, _, (List.dropLast_append_getLast hrest).symm⟩
        have hinit : front = first ++ others := by
          rw [hparts, ← List.append_assoc] at hsplit
          exact (List.append_inj' hsplit rfl).1
        by_cases hothers : others = []
        · exact .inl (by rw [hinit, hothers, List.append_nil])
        · exact .inr ⟨first, others, hfirst, hothers, hup.trans hinit, rfl⟩

end SlashPath
