import ScimQuery.Proofs.Linearize

/-! # Diagnosing joins that cannot be placed

Placing joins gives up in two ways: on a join whose source alias is introduced under another
table, or by diagnosing the joins that remain, which is only ever done with at least one of
them left. The diagnosis runs Tarjan's search for strongly connected components, and every
component the search completes holds at least one node: a visit pushes its node before it
visits the successors, each of those visits leaves the stack it found underneath its own
entries, and so the pop that completes a component finds the node on the stack.
-/

namespace ScimQuery

namespace JoinOrder

/-- What a run of the search keeps: the stack it started from lies underneath the stack it
leaves, and the components it completes are appended to the earlier ones, none of them
empty. -/
structure Search.Extends (s s' : Search) : Prop where
  stack : ∃ above, s'.stack = above ++ s.stack
  components : ∃ new, s'.components = s.components ++ new ∧ ∀ c ∈ new, c ≠ []

namespace Search.Extends

theorem refl (s : Search) : Search.Extends s s :=
  ⟨⟨[], rfl⟩, ⟨[], (List.append_nil _).symm, by simp⟩⟩

theorem trans {s s' s'' : Search} (h : Search.Extends s s') (h' : Search.Extends s' s'') :
    Search.Extends s s'' := by
  obtain ⟨⟨above, hs⟩, ⟨new, hc, hnew⟩⟩ := h
  obtain ⟨⟨above', hs'⟩, ⟨new', hc', hnew'⟩⟩ := h'
  refine ⟨⟨above' ++ above, by rw [hs', hs, List.append_assoc]⟩,
    ⟨new ++ new', by rw [hc', hc, List.append_assoc], fun c hc => ?_⟩⟩
  rcases List.mem_append.1 hc with hc | hc
  · exact hnew c hc
  · exact hnew' c hc

theorem of_low {s : Search} (low : List Nat) : Search.Extends s { s with low } :=
  ⟨⟨[], rfl⟩, ⟨[], (List.append_nil _).symm, by simp⟩⟩

theorem foldl {α : Type} {f : Search → α → Search} (hf : ∀ s a, Search.Extends s (f s a)) :
    ∀ (l : List α) (s : Search), Search.Extends s (l.foldl f s)
  | [], s => refl s
  | a :: l, s => (hf s a).trans (foldl hf l (f s a))

end Search.Extends

theorem popTo_fst_ne_nil (v : Nat) {stack : List Nat} (h : stack ≠ []) : (popTo v stack).1 ≠ [] := by
  obtain ⟨w, rest, rfl⟩ := List.exists_cons_of_ne_nil h
  rw [popTo]
  split <;> simp

theorem popTo_snd_of_mem (v : Nat) (below : List Nat) :
    ∀ above : List Nat, ∃ rest, (popTo v (above ++ v :: below)).2 = rest ++ below
  | [] => ⟨[], by simp [popTo]⟩
  | w :: above => by
    obtain ⟨rest, hrest⟩ := popTo_snd_of_mem v below above
    rw [List.cons_append, popTo]
    split
    · exact ⟨above ++ [v], by simp⟩
    · exact ⟨rest, hrest⟩

namespace Search

/-- The search with `v` given the next index and pushed on the stack. -/
def push (s : Search) (v : Nat) : Search :=
  { s with
    index := s.index.set v (some s.counter), low := s.low.set v s.counter,
    counter := s.counter + 1, stack := v :: s.stack }

/-- The search after `v` has looked at its successor `w`: a node not yet visited is visited,
and either way `v`'s low link may drop. -/
def follow (succ : Nat → List Nat) (fuel v : Nat) (s : Search) (w : Nat) : Search :=
  match s.index.getD w (none : Option Nat) with
  | none =>
    let s := visit succ fuel w s
    { s with low := s.low.set v (min (s.low.getD v 0) (s.low.getD w 0)) }
  | some iw =>
    if s.stack.contains w then { s with low := s.low.set v (min (s.low.getD v 0) iw) } else s

/-- The search after all of `v`'s successors: when `v` is the root of its component, the
component is popped. -/
def finish (v : Nat) (s : Search) : Search :=
  if s.low.getD v 0 = (s.index.getD v (none : Option Nat)).getD 0 then
    let (comp, rest) := popTo v s.stack
    { s with stack := rest, components := s.components ++ [comp] }
  else s

@[simp] theorem push_stack (s : Search) (v : Nat) : (s.push v).stack = v :: s.stack := rfl

@[simp] theorem push_components (s : Search) (v : Nat) : (s.push v).components = s.components :=
  rfl

theorem push_extends (s : Search) (v : Nat) : Search.Extends s (s.push v) :=
  ⟨⟨[v], rfl⟩, ⟨[], (List.append_nil _).symm, by simp⟩⟩

/-- Finishing a node that stands on the stack, with what lay underneath it when it was
pushed, extends the search from before the push. -/
theorem finish_extends {s t : Search} {v : Nat} (h : Search.Extends (s.push v) t) :
    Search.Extends s (finish v t) := by
  unfold finish
  split
  · obtain ⟨⟨above, habove⟩, ⟨new, hnew, hne⟩⟩ := h
    rw [push_stack] at habove
    rw [push_components] at hnew
    obtain ⟨rest, hrest⟩ := popTo_snd_of_mem v s.stack above
    have hcomp := @popTo_fst_ne_nil v (above ++ v :: s.stack) (by simp)
    rw [habove]
    rcases hpop : popTo v (above ++ v :: s.stack) with ⟨comp, rest'⟩
    rw [hpop] at hrest hcomp
    refine ⟨⟨rest, hrest⟩, ⟨new ++ [comp], by rw [hnew]; exact List.append_assoc _ _ _, fun c hc => ?_⟩⟩
    rcases List.mem_append.1 hc with hc | hc
    · exact hne c hc
    · rw [List.mem_singleton.1 hc]
      exact hcomp
  · exact (push_extends s v).trans h

end Search

theorem visit_succ (succ : Nat → List Nat) (fuel v : Nat) (s : Search) :
    visit succ (fuel + 1) v s =
      Search.finish v ((succ v).foldl (Search.follow succ fuel v) (s.push v)) := rfl

theorem visit_extends (succ : Nat → List Nat) :
    ∀ (fuel v : Nat) (s : Search), Search.Extends s (visit succ fuel v s)
  | 0, _, s => Search.Extends.refl s
  | fuel + 1, v, s => by
    have hfollow : ∀ t w, Search.Extends t (Search.follow succ fuel v t w) := by
      intro t w
      unfold Search.follow
      split
      · exact (visit_extends succ fuel w t).trans (Search.Extends.of_low _)
      · split
        · exact Search.Extends.of_low _
        · exact Search.Extends.refl t
    rw [visit_succ]
    exact Search.finish_extends (Search.Extends.foldl hfollow (succ v) (s.push v))

/-- Every component the search completes holds a node. -/
theorem search_components_ne_nil (succ : Nat → List Nat) (n : Nat) :
    ∀ comp ∈ (search succ n).components, comp ≠ [] := by
  have hstart : Search.Extends { index := List.replicate n none, low := List.replicate n 0 }
      (search succ n) := by
    refine Search.Extends.foldl (fun s v => ?_) (List.range n) _
    split
    · exact Search.Extends.refl s
    · exact visit_extends succ (n + 1) v s
  obtain ⟨new, hnew, hne⟩ := hstart.components
  rw [hnew, List.nil_append]
  exact hne

theorem place_zero (introduced : List TableReference) (j : JoinDescriptor)
    (rest ordered : List JoinDescriptor) :
    place introduced 0 (j :: rest) ordered = .error (diagnose (j :: rest)) := rfl

/-- Placing joins fails only on a join whose source alias is introduced under another table,
or by diagnosing joins that remain, at least one of them. -/
theorem place_eq_error {introduced : List TableReference} {fuel : Nat}
    {remaining ordered : List JoinDescriptor} {e : JoinProblem}
    (h : place introduced fuel remaining ordered = .error e) :
    (∃ j known, e = .aliasMismatch j known) ∨
      ∃ stuck, stuck ≠ [] ∧ stuck.Sublist remaining ∧ e = diagnose stuck := by
  induction fuel generalizing introduced remaining ordered with
  | zero =>
    cases remaining with
    | nil =>
      rw [place_nil] at h
      cases h
    | cons j rest =>
      rw [place_zero] at h
      exact .inr ⟨j :: rest, List.cons_ne_nil _ _, List.Sublist.refl _, (Except.error.inj h).symm⟩
  | succ fuel ih =>
    cases remaining with
    | nil =>
      rw [place_nil] at h
      cases h
    | cons j rest =>
      rw [place_succ] at h
      split at h
      · exact .inr ⟨j :: rest, List.cons_ne_nil _ _, List.Sublist.refl _, (Except.error.inj h).symm⟩
      rename_i k _
      split at h
      · split at h
        · -- a join was placed: what fails later fails on the joins that remain after it
          rcases ih h with hmismatch | ⟨stuck, hne, hsub, rfl⟩
          · exact .inl hmismatch
          · exact .inr ⟨stuck, hne, hsub.trans List.eraseP_sublist, rfl⟩
        · exact .inl ⟨k, _, (Except.error.inj h).symm⟩
      · exact .inr ⟨j :: rest, List.cons_ne_nil _ _, List.Sublist.refl _, (Except.error.inj h).symm⟩

end JoinOrder

end ScimQuery
