import DataGround.Library.SlashPaths

/-!
# Resolving a path in a tree with symbolic links

Pathname resolution as POSIX has it, over a tree given by what stands at each position: the parts
of a path are taken one by one from a directory, an empty part and `.` stay, `..` goes to the
physical parent, a name enters a directory, and a name that is a link is replaced by the parts of
its target, read from the directory the link stands in. Only the last part may be a file.

A walk starts below a root and has one outcome at most (`Walk.unique`): the position it ends at, or
the reason why it stops. It stops as `escaped` when `..` is met at the root. A chain of links that
never ends has no outcome.
-/

/-- What stands at a position of the tree. -/
inductive PathNode where
  | directory
  | file
  | link (target : String)

/-- How a resolution ends. -/
inductive PathOutcome where
  | found (position : List String)
  | missing
  | notDirectory
  | escaped

open SlashPath in
/-- `Walk node position pending outcome`: from the directory at `position`, the remaining parts
`pending` resolve to `outcome`. -/
inductive Walk (node : List String → Option PathNode) :
    List String → List String → PathOutcome → Prop
  | done {position} : Walk node position [] (.found position)
  | stay {position part rest outcome} (hpart : part = "" ∨ part = ".") :
      Walk node position rest outcome → Walk node position (part :: rest) outcome
  | up {position last rest outcome} :
      Walk node position rest outcome → Walk node (position ++ [last]) (".." :: rest) outcome
  | escape {rest} : Walk node [] (".." :: rest) .escaped
  | missing {position part rest} (hpart : Plain part) (hnode : node (position ++ [part]) = none) :
      Walk node position (part :: rest) .missing
  | enter {position part rest outcome} (hpart : Plain part)
      (hnode : node (position ++ [part]) = some .directory) :
      Walk node (position ++ [part]) rest outcome → Walk node position (part :: rest) outcome
  | file {position part} (hpart : Plain part) (hnode : node (position ++ [part]) = some .file) :
      Walk node position [part] (.found (position ++ [part]))
  | notDirectory {position part next rest} (hpart : Plain part)
      (hnode : node (position ++ [part]) = some .file) :
      Walk node position (part :: next :: rest) .notDirectory
  | follow {position part rest outcome target} (hpart : Plain part)
      (hnode : node (position ++ [part]) = some (.link target)) :
      Walk node position (parts target ++ rest) outcome → Walk node position (part :: rest) outcome

namespace Walk

open SlashPath

variable {node : List String → Option PathNode} {position pending : List String}
  {outcome other : PathOutcome}

variable {part : String}

lemma not_plain_of_stay (hstay : part = "" ∨ part = ".") : ¬ Plain part :=
  fun hplain => hstay.elim hplain.1 hplain.2.1

/-! What the next part decides about the rest of a walk. -/

variable {rest : List String}

lemma of_stay (hstay : part = "" ∨ part = ".") (h : Walk node position (part :: rest) outcome) :
    Walk node position rest outcome := by
  cases h with
  | stay _ hrest => exact hrest
  | up | escape => exact absurd hstay (by decide)
  | missing hpart | enter hpart | file hpart | notDirectory hpart | follow hpart =>
    exact absurd hpart (not_plain_of_stay hstay)

lemma of_up {last : String} (h : Walk node (position ++ [last]) (".." :: rest) outcome) :
    Walk node position rest outcome := by
  generalize hstart : position ++ [last] = start at h
  cases h with
  | stay hpart => exact absurd hpart (by decide)
  | up hrest =>
    obtain ⟨rfl, -⟩ := List.append_inj' hstart rfl
    exact hrest
  | escape => exact absurd hstart (by simp)
  | missing hpart | enter hpart | file hpart | notDirectory hpart | follow hpart =>
    exact absurd rfl hpart.2.2

lemma of_directory (hpart : Plain part) (hnode : node (position ++ [part]) = some .directory)
    (h : Walk node position (part :: rest) outcome) :
    Walk node (position ++ [part]) rest outcome := by
  cases h with
  | stay hstay => exact absurd hpart (not_plain_of_stay hstay)
  | up | escape => exact absurd rfl hpart.2.2
  | enter _ _ hrest => exact hrest
  | missing _ hother | file _ hother | notDirectory _ hother | follow _ hother =>
    exact nomatch hnode.symm.trans hother

lemma of_link {part target : String} (hpart : Plain part)
    (hnode : node (position ++ [part]) = some (.link target))
    (h : Walk node position (part :: rest) outcome) :
    Walk node position (parts target ++ rest) outcome := by
  cases h with
  | stay hstay => exact absurd hpart (not_plain_of_stay hstay)
  | up | escape => exact absurd rfl hpart.2.2
  | follow _ hother hrest =>
    cases hnode.symm.trans hother
    exact hrest
  | missing _ hother | enter _ hother | file _ hother | notDirectory _ hother =>
    exact nomatch hnode.symm.trans hother

/-- A walk has one outcome at most. -/
theorem unique (h : Walk node position pending outcome) (hother : Walk node position pending other) :
    outcome = other := by
  induction h with
  | done => cases hother; rfl
  | stay hpart _ ih => exact ih (hother.of_stay hpart)
  | up _ ih => exact ih hother.of_up
  | escape =>
    generalize hstart : ([] : List String) = start at hother
    cases hother with
    | stay hpart => exact absurd hpart (by decide)
    | up => exact absurd hstart (by simp)
    | escape => rfl
    | missing hpart _ | enter hpart _ _ | file hpart _ | notDirectory hpart _
    | follow hpart => exact absurd rfl hpart.2.2
  | missing hpart hnode =>
    cases hother with
    | stay hstay => exact absurd hpart (not_plain_of_stay hstay)
    | up | escape => exact absurd rfl hpart.2.2
    | missing => rfl
    | enter _ hnode' | file _ hnode' | notDirectory _ hnode' | follow _ hnode' =>
      exact nomatch hnode.symm.trans hnode'
  | enter hpart hnode _ ih => exact ih (hother.of_directory hpart hnode)
  | file hpart hnode =>
    cases hother with
    | stay hstay => exact absurd hpart (not_plain_of_stay hstay)
    | up | escape => exact absurd rfl hpart.2.2
    | file => rfl
    | missing _ hnode' | enter _ hnode' | follow _ hnode' => exact nomatch hnode.symm.trans hnode'
  | notDirectory hpart hnode =>
    cases hother with
    | stay hstay => exact absurd hpart (not_plain_of_stay hstay)
    | up | escape => exact absurd rfl hpart.2.2
    | notDirectory => rfl
    | missing _ hnode' | enter _ hnode' | follow _ hnode' => exact nomatch hnode.symm.trans hnode'
  | follow hpart hnode _ ih => exact ih (hother.of_link hpart hnode)

/-- Walking down existing directories ends in the last of them, from where the walk goes on. -/
lemma of_directories {below rest : List String} (hplain : ∀ part ∈ below, Plain part)
    (hnode : ∀ front rest, front ≠ [] → below = front ++ rest →
      node (position ++ front) = some .directory)
    (h : Walk node position (below ++ rest) outcome) :
    Walk node (position ++ below) rest outcome := by
  induction below generalizing position with
  | nil => rwa [List.append_nil]
  | cons part below ih =>
    have hpart : Plain part := hplain part List.mem_cons_self
    have hfirst : node (position ++ [part]) = some .directory :=
      hnode [part] below (List.cons_ne_nil _ _) rfl
    have hdown : Walk node (position ++ [part]) (below ++ rest) outcome :=
      h.of_directory hpart hfirst
    rw [List.append_cons]
    refine ih (fun name hname => hplain name (List.mem_cons_of_mem _ hname)) ?_ hdown
    rintro front others hfront rfl
    rw [List.append_assoc]
    exact hnode (part :: front) others (List.cons_ne_nil _ _) rfl

end Walk
