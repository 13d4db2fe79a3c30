import MailSearch.Store.Memory

/-! Sorting neither loses documents nor adds any, whether their ids have a total order or not. Where they have
none, the documents are sorted by runs, and each step that splits items off, inserts or merges them only moves
them, however the comparisons come out. -/

namespace MailSearch.Sorting

variable {α ε : Type} {isBelow goesFirst : α → α → Except ε Bool}

theorem bind_eq_ok_iff {β γ : Type} {first : Except ε β} {second : β → Except ε γ} {result : γ} :
    first >>= second = .ok result ↔ ∃ middle, first = .ok middle ∧ second middle = .ok result := by
  cases first <;> simp [bind, Except.bind]

private theorem append_of_splitRun {follows : α → α → Except ε Bool} {last : α} {items run later : List α}
    (done : splitRun follows last items = .ok (run, later)) : run ++ later = items := by
  induction items generalizing last run with
  | nil =>
    cases done
    rfl
  | cons item rest ih =>
    obtain ⟨goesOn, -, done⟩ := bind_eq_ok_iff.mp done
    cases goesOn with
    | false =>
      cases done
      rfl
    | true =>
      obtain ⟨⟨run, later⟩, split, done⟩ := bind_eq_ok_iff.mp done
      cases done
      rw [List.cons_append, ih split]

private theorem perm_of_firstRun {items run later : List α} (done : firstRun isBelow items = .ok (run, later)) :
    (run ++ later).Perm items := by
  match items, done with
  | [], done =>
    cases done
    exact .refl _
  | [_], done =>
    cases done
    exact .refl _
  | first :: second :: rest, done =>
    obtain ⟨falls, -, done⟩ := bind_eq_ok_iff.mp done
    cases falls with
    | false =>
      obtain ⟨⟨run, later⟩, split, done⟩ := bind_eq_ok_iff.mp done
      cases done
      rw [← append_of_splitRun split]
      exact .refl _
    | true =>
      obtain ⟨⟨run, later⟩, split, done⟩ := bind_eq_ok_iff.mp done
      cases done
      rw [← append_of_splitRun split]
      exact (List.reverse_perm _).append_right later

private theorem perm_of_insertAll {run items sorted : List α} (done : insertAll isBelow run items = .ok sorted) :
    sorted.Perm (run ++ items) := by
  unfold insertAll at done
  induction items generalizing run with
  | nil =>
    cases done
    simp
  | cons item rest ih =>
    rw [List.foldlM_cons] at done
    obtain ⟨longer, inserted, done⟩ := bind_eq_ok_iff.mp done
    have one : (longer ++ rest).Perm (item :: run ++ rest) := (perm_of_insert isBelow inserted).append_right rest
    exact ((ih done).trans one).trans List.perm_middle.symm

private theorem perm_of_runs {least bound : Nat} {items : List α} {found : List (List α)}
    (done : runs isBelow least bound items = .ok found) : found.flatten.Perm items := by
  induction bound generalizing items found with
  | zero =>
    cases items with
    | nil => cases done; exact .refl _
    | cons => cases done; simp
  | succ bound ih =>
    match items, done with
    | [], done => cases done; exact .refl _
    | first :: rest, done =>
      obtain ⟨⟨run, later⟩, started, done⟩ := bind_eq_ok_iff.mp done
      obtain ⟨extended, inserted, done⟩ := bind_eq_ok_iff.mp done
      obtain ⟨others, listed, done⟩ := bind_eq_ok_iff.mp done
      cases done
      rw [List.flatten_cons]
      refine .trans ?_ (perm_of_firstRun started)
      refine ((perm_of_insertAll inserted).append (ih listed)).trans ?_
      rw [List.append_assoc, List.take_append_drop]

/-- All items of a leap: those put in place and those left. -/
def Leap.items (leap : Leap α) : List α := leap.placed ++ (leap.favoured ++ leap.other)

private theorem perm_of_leapFavoured {side : Side} {favoured other : List α} {leap : Leap α}
    (done : leapFavoured goesFirst side favoured other = .ok leap) : leap.items.Perm (favoured ++ other) := by
  unfold leapFavoured at done
  cases other with
  | nil =>
    cases done
    exact .refl _
  | cons item later =>
    simp only at done
    split at done
    · cases done
      exact .refl _
    · obtain ⟨length, -, done⟩ := bind_eq_ok_iff.mp done
      have whole : (favoured.take length ++ favoured.drop length ++ item :: later).Perm (favoured ++ item :: later) := by
        rw [List.take_append_drop]
      split at done
      · cases done
        rw [List.append_assoc] at whole
        exact whole
      · cases done
        refine .trans ?_ whole
        simp only [Leap.items, List.append_assoc, List.singleton_append]
        exact List.perm_middle.symm.append_left _

private theorem perm_of_leapOther {side : Side} {favoured other : List α} {leap : Leap α}
    (done : leapOther goesFirst side favoured other = .ok leap) : leap.items.Perm (favoured ++ other) := by
  unfold leapOther at done
  cases favoured with
  | nil =>
    cases done
    exact .refl _
  | cons item later =>
    simp only at done
    split at done
    · cases done
      exact .refl _
    · obtain ⟨length, -, done⟩ := bind_eq_ok_iff.mp done
      have whole : (other.take length ++ (item :: later ++ other.drop length)).Perm (item :: later ++ other) := by
        refine List.perm_append_comm.trans ?_
        rw [List.append_assoc]
        refine List.Perm.append_left _ (List.perm_append_comm.trans ?_)
        rw [List.take_append_drop]
      split at done
      · cases done
        exact whole
      · cases done
        refine .trans ?_ whole
        simp only [Leap.items, List.append_assoc, List.cons_append]
        exact .refl _

/-- The second of two leaps starts from what the first one left. -/
theorem perm_of_leapTwice {side : Side} {favoured other : List α} {leap next : Leap α}
    (done : leapTwice goesFirst side favoured other = .ok (leap, next)) :
    (leap.placed ++ next.items).Perm (favoured ++ other) := by
  unfold leapTwice at done
  cases side with
  | front =>
    obtain ⟨first, leapt, done⟩ := bind_eq_ok_iff.mp done
    obtain ⟨second, leapt', done⟩ := bind_eq_ok_iff.mp done
    cases done
    exact ((perm_of_leapOther leapt').append_left _).trans (perm_of_leapFavoured leapt)
  | back =>
    obtain ⟨first, leapt, done⟩ := bind_eq_ok_iff.mp done
    obtain ⟨second, leapt', done⟩ := bind_eq_ok_iff.mp done
    cases done
    exact ((perm_of_leapFavoured leapt').append_left _).trans (perm_of_leapOther leapt)

private theorem exists_of_placing {items : List α} {merging : Except ε (List α × Nat)} {merged : List α}
    {patience : Nat} (done : placing items merging = .ok (merged, patience)) :
    ∃ later, merging = .ok (later, patience) ∧ items ++ later = merged := by
  cases merging with
  | error failure => cases done
  | ok result =>
    cases done
    exact ⟨result.1, rfl, rfl⟩

private theorem perm_of_merge {side : Side} {bound : Nat} {pace : Pace} {patience left : Nat}
    {favoured other merged : List α}
    (done : merge goesFirst side bound pace patience favoured other = .ok (merged, left)) :
    merged.Perm (favoured ++ other) := by
  fun_induction merge goesFirst side bound pace patience favoured other generalizing merged left with
  | case1 =>
    cases done
    exact .refl _
  | case2 =>
    cases done
    simp
  | case3 =>
    cases done
    simp
  | case4 =>
    cases done
    exact List.perm_append_comm
  | case5 bound favouredWins otherWins patience first favoured item other more ihOther ihFavoured =>
    obtain ⟨goes, -, done⟩ := bind_eq_ok_iff.mp done
    cases goes with
    | true =>
      obtain ⟨later, merges, rfl⟩ := exists_of_placing done
      exact ((ihOther merges).cons item).trans List.perm_middle.symm
    | false =>
      obtain ⟨later, merges, rfl⟩ := exists_of_placing done
      exact (ihFavoured merges).cons first
  | case6 bound patience favoured other more some_ notLast ihAgain ihWorth ihStep =>
    obtain ⟨⟨leap, next⟩, leapt, done⟩ := bind_eq_ok_iff.mp done
    -- however the merge goes on, it moves just what the two leaps left
    have goingOn {later : List α} (rest : later.Perm (next.favoured ++ next.other)) :
        (leap.placed ++ next.placed ++ later).Perm (favoured ++ other) := by
      rw [List.append_assoc]
      exact ((rest.append_left _).append_left _).trans (perm_of_leapTwice leapt)
    simp only at done
    split at done
    · obtain ⟨later, merges, rfl⟩ := exists_of_placing done
      exact goingOn (ihAgain next merges)
    · split at done
      · obtain ⟨later, merges, rfl⟩ := exists_of_placing done
        exact goingOn (ihWorth next merges)
      · obtain ⟨later, merges, rfl⟩ := exists_of_placing done
        exact goingOn (ihStep next merges)

private theorem perm_of_mergeFrom {side : Side} {patience left : Nat} {favoured other merged : List α}
    (done : mergeFrom goesFirst side patience favoured other = .ok (merged, left)) :
    merged.Perm (favoured ++ other) := by
  cases other with
  | nil =>
    cases done
    simp
  | cons first later =>
    obtain ⟨rest, merges, rfl⟩ := exists_of_placing done
    exact ((perm_of_merge merges).cons first).trans List.perm_middle.symm

private theorem perm_of_mergeRuns {patience left : Nat} {lower upper merged : List α}
    (done : mergeRuns isBelow patience lower upper = .ok (merged, left)) : merged.Perm (lower ++ upper) := by
  cases upper with
  | nil =>
    cases done
    simp
  | cons first rest =>
    obtain ⟨settled, -, done⟩ := bind_eq_ok_iff.mp done
    simp only at done
    split at done
    next none =>
      cases done
      have whole := List.take_append_drop settled lower
      rw [List.getLast?_eq_none_iff.mp none, List.append_nil] at whole
      rw [whole]
    next last _ =>
      obtain ⟨behind, -, done⟩ := bind_eq_ok_iff.mp done
      let kept := (first :: rest).length - behind
      -- what stays at either end stays there; only what lies between is merged
      have around {between : List α} (merges : between.Perm (lower.drop settled ++ (first :: rest).take kept)) :
          (lower.take settled ++ between ++ (first :: rest).drop kept).Perm (lower ++ first :: rest) := by
        refine ((merges.append_left _).append_right _).trans ?_
        rw [← List.append_assoc, List.take_append_drop, List.append_assoc, List.take_append_drop]
      split at done
      · obtain ⟨⟨between, _⟩, merges, done⟩ := bind_eq_ok_iff.mp done
        cases done
        exact around (perm_of_mergeFrom merges)
      · obtain ⟨⟨between, _⟩, merges, done⟩ := bind_eq_ok_iff.mp done
        cases done
        refine around ((List.reverse_perm between).trans ((perm_of_mergeFrom merges).trans ?_))
        exact ((List.reverse_perm _).append (List.reverse_perm _)).trans List.perm_append_comm

def waitingItems (waiting : List (Waiting α)) : List α := waiting.flatMap Waiting.run

private theorem perm_of_mergeBefore {power patience left : Nat} {last merged : List α} {waiting rest : List (Waiting α)}
    (done : mergeBefore isBelow power patience last waiting = .ok (merged, rest, left)) :
    (merged ++ waitingItems rest).Perm (last ++ waitingItems waiting) := by
  induction waiting generalizing last patience with
  | nil =>
    cases done
    exact .refl _
  | cons first others ih =>
    unfold mergeBefore at done
    split at done
    · obtain ⟨⟨joined, _⟩, merges, done⟩ := bind_eq_ok_iff.mp done
      refine (ih done).trans (((perm_of_mergeRuns merges).append_right _).trans ?_)
      simp only [waitingItems, List.flatMap_cons, ← List.append_assoc]
      exact List.perm_append_comm.append_right _
    · cases done
      exact .refl _

private theorem perm_of_mergeWaiting {patience : Nat} {last merged : List α} {waiting : List (Waiting α)}
    (done : mergeWaiting isBelow patience last waiting = .ok merged) : merged.Perm (last ++ waitingItems waiting) := by
  fun_induction mergeWaiting isBelow patience last waiting generalizing merged with
  | case1 =>
    cases done
    simp [waitingItems]
  | case2 patience last waiting =>
    obtain ⟨⟨joined, _⟩, merges, done⟩ := bind_eq_ok_iff.mp done
    cases done
    refine (perm_of_mergeRuns merges).trans (List.perm_append_comm.trans ?_)
    simp [waitingItems]
  | case3 patience last second third rest shorter ih =>
    obtain ⟨⟨joined, _⟩, merges, done⟩ := bind_eq_ok_iff.mp done
    refine (ih _ _ done).trans (List.Perm.append_left _ ?_)
    simp only [waitingItems, List.flatMap_cons, ← List.append_assoc]
    exact ((perm_of_mergeRuns merges).trans List.perm_append_comm).append_right _
  | case4 patience last second third rest longer ih =>
    obtain ⟨⟨joined, _⟩, merges, done⟩ := bind_eq_ok_iff.mp done
    refine (ih _ _ done).trans (((perm_of_mergeRuns merges).append_right _).trans ?_)
    simp only [waitingItems, List.flatMap_cons, ← List.append_assoc]
    exact (List.perm_append_comm.append_right _).append_right _

private theorem perm_of_mergeInTurn {total start patience : Nat} {last sorted : List α} {waiting : List (Waiting α)}
    {found : List (List α)} (done : mergeInTurn isBelow total start patience last waiting found = .ok sorted) :
    sorted.Perm (last ++ waitingItems waiting ++ found.flatten) := by
  induction found generalizing start patience last waiting with
  | nil =>
    rw [List.flatten_nil, List.append_nil]
    exact perm_of_mergeWaiting done
  | cons run rest ih =>
    obtain ⟨⟨joined, others, _⟩, merges, done⟩ := bind_eq_ok_iff.mp done
    refine (ih done).trans ?_
    rw [List.flatten_cons, ← List.append_assoc]
    refine List.Perm.append_right _ ?_
    exact List.perm_append_comm.trans ((perm_of_mergeBefore merges).append_right run)

private theorem perm_of_sort {items sorted : List α} (done : sort isBelow items = .ok sorted) : sorted.Perm items := by
  obtain ⟨found, splits, done⟩ := bind_eq_ok_iff.mp done
  have whole := perm_of_runs splits
  cases found with
  | nil =>
    cases done
    exact whole
  | cons first rest =>
    refine (perm_of_mergeInTurn done).trans ?_
    simpa [waitingItems] using whole

end MailSearch.Sorting

namespace MailSearch.SortOrder

open Sorting

variable {α : Type} {order : SortOrder}

private theorem perm_of_sortMixed {items sorted : List (Value × α)} (done : order.sortMixed items = .ok sorted) :
    sorted.Perm items := by
  cases order with
  | ascending => exact perm_of_sort done
  | descending =>
    obtain ⟨backwards, sorts, done⟩ := bind_eq_ok_iff.mp done
    cases done
    exact (List.reverse_perm backwards).trans ((perm_of_sort sorts).trans (List.reverse_perm items))

private theorem perm_of_sortByKey {items sorted : List (Value × α)} (done : order.sortByKey items = .ok sorted) :
    sorted.Perm items := by
  unfold sortByKey at done
  split at done
  · cases done
    exact List.mergeSort_perm _ _
  · exact perm_of_sortMixed done

private theorem documents_of_keyed {documents : List Fields} {keyed : List (Value × Fields)}
    (done : documents.mapM (fun document => do return (← DocumentStore.idOf document, document)) = .ok keyed) :
    keyed.map Prod.snd = documents := by
  induction documents generalizing keyed with
  | nil =>
    cases done
    rfl
  | cons document rest ih =>
    rw [List.mapM_cons] at done
    obtain ⟨first, identified, done⟩ := bind_eq_ok_iff.mp done
    obtain ⟨others, listed, done⟩ := bind_eq_ok_iff.mp done
    obtain ⟨id, -, identified⟩ := bind_eq_ok_iff.mp identified
    cases identified
    cases done
    rw [List.map_cons, ih listed]

private theorem perm_of_sort {documents sorted : List Fields} (done : order.sort documents = .ok sorted) :
    sorted.Perm documents := by
  obtain ⟨keyed, identified, done⟩ := bind_eq_ok_iff.mp done
  obtain ⟨placed, sorts, done⟩ := bind_eq_ok_iff.mp done
  cases done
  rw [← documents_of_keyed identified]
  exact (perm_of_sortByKey sorts).map Prod.snd

end MailSearch.SortOrder

namespace MailSearch

/-- What is found are documents that were selected, cut to the names asked for. -/
theorem Memory.mem_find {memory : Memory} {name : String} {selection : Selection} {chosen found : List Fields}
    (selects : Documents.selected selection.filter (memory.collection name).documents = .ok chosen)
    (done : memory.find name selection = .ok found) {document : Fields} (member : document ∈ found) :
    ∃ kept ∈ chosen, document = kept.projected selection.names := by
  have placed {sorted : List Fields} (perm : sorted.Perm chosen)
      (cut : document ∈ (Documents.limited selection.limit sorted).map (Fields.projected selection.names)) :
      ∃ kept ∈ chosen, document = kept.projected selection.names := by
    obtain ⟨kept, within, rfl⟩ := List.mem_map.mp cut
    refine ⟨kept, perm.mem_iff.mp ?_, rfl⟩
    unfold Documents.limited at within
    split at within
    · exact within
    · exact List.mem_of_mem_take within
  unfold find at done
  obtain ⟨chosen', selects', done⟩ := Sorting.bind_eq_ok_iff.mp done
  cases selects.symm.trans selects'
  cases given : selection.order with
  | none =>
    simp only [given] at done
    cases done
    exact placed (.refl _) member
  | some order =>
    simp only [given] at done
    obtain ⟨sorted, sorts, done⟩ := Sorting.bind_eq_ok_iff.mp done
    cases done
    exact placed (SortOrder.perm_of_sort sorts) member

end MailSearch
