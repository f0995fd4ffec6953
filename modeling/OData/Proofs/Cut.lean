import OData.Proofs.Scan

/-!
# Cutting at Separators

The way back from a joined text. `pieces` cuts a text at every separator that
stands outside quotes and parentheses. If the texts that were joined are
closed, with the separator among their stops, then `pieces` returns them, so a
join of closed texts determines every one of them.

Two weaker facts are needed where the texts hold separators of their own. A
separator that follows balanced text is always cut at, whatever comes after
it. And no text is lost by cutting, so two texts with the same pieces are the
same.

Lists are often written with a blank behind every comma. The blank then counts
as part of the next piece, and since every piece but the first has one, that
does no harm.

## Main definitions

* `cut`: The pieces of a text from some state of the scan on.
* `pieces`: The pieces of a whole text.

## Theorems

* `cut_append`: The pieces on both sides of a separator.
* `cut_eq_singleton`: A text without separators is one piece.
* `intercalate_cut`: Putting the separators back.
* `pieces_append`: The pieces of two texts with a separator between.
* `pieces_eq_singleton`: A closed text is one piece.
* `pieces_injective`: The pieces determine the text.
* `pieces_intercalate`: Joined closed texts are found again.
* `pieces_joined`: A plain join is cut where it was joined.
* `intercalate_inj`: A join of closed texts determines them.
* `before_inj`: A text is cut in one way only at the first of some character.
* `intercalate_inj_of_avoids`: A join of texts without the separator determines
  them, whatever quotes they hold.
-/

namespace OData

namespace Text

/-- The pieces of a text, read on from a state of the scan. -/
def cut (sep : Char) : Scan → List Char → List (List Char)
  | _, [] => [[]]
  | s, c :: cs =>
    if s = .start ∧ c = sep then [] :: cut sep .start cs
    else (cut sep (s.next c) cs).modifyHead (c :: ·)

/-- The text cut at every separator outside quotes and parentheses. -/
def pieces (sep : Char) (s : String) : List String :=
  (cut sep .start s.toList).map String.ofList

section

variable {sep : Char} {s t : Scan} {cs ds : List Char}

theorem cut_ne_nil : cut sep s cs ≠ [] := by
  induction cs generalizing s with
  | nil => exact List.cons_ne_nil _ _
  | cons c cs ih =>
      unfold cut
      split
      · exact List.cons_ne_nil _ _
      · rw [ne_eq, List.modifyHead_eq_nil_iff]
        exact ih

theorem modifyHead_append {α : Type} {f : α → α} {xs ys : List α} (h : xs ≠ []) :
    (xs ++ ys).modifyHead f = xs.modifyHead f ++ ys := by
  cases xs with
  | nil => exact absurd rfl h
  | cons x xs => simp only [List.cons_append, List.modifyHead_cons]

/-- The pieces on both sides of a separator. On its left the scan must come
    back to the start, and it may have met separators there already. -/
theorem cut_append (hsep : Scan.start.next sep = .start) (h : Scan.run [] s cs = some .start) :
    cut sep s (cs ++ sep :: ds) = cut sep s cs ++ cut sep .start ds := by
  induction cs generalizing s with
  | nil =>
      rw [Scan.run_nil, Option.some.injEq] at h
      simp only [List.nil_append, cut, h, and_self, if_true, List.cons_append]
  | cons c cs ih =>
      rcases Scan.run_cons_eq_some_iff.mp h with ⟨_, hrest⟩
      by_cases hc : s = .start ∧ c = sep
      · -- A separator ends a piece on both sides, and the scan starts anew.
        rw [hc.1, hc.2, hsep] at hrest
        simp only [List.cons_append, cut, hc, and_self, if_true, ih hrest]
      · simp only [List.cons_append, cut, hc, if_false, ih hrest]
        exact modifyHead_append cut_ne_nil

/-- A text whose scan stops at no separator is one piece. -/
theorem cut_eq_singleton (h : Scan.run [sep] s cs = some t) : cut sep s cs = [cs] := by
  induction cs generalizing s with
  | nil => rfl
  | cons c cs ih =>
      rcases Scan.run_cons_eq_some_iff.mp h with ⟨hadmits, hrest⟩
      -- A separator in the open would have stopped the scan.
      have hc : ¬ (s = .start ∧ c = sep) := by
        rintro ⟨rfl, rfl⟩
        rcases hadmits with hq | hd | hstop
        · exact Bool.false_ne_true hq
        · exact hd rfl
        · exact hstop.2 List.mem_cons_self
      simp only [cut, hc, if_false, ih hrest, List.modifyHead_cons]

/-- There is at most one piece more than there are separators. -/
theorem length_cut_le : (cut sep s cs).length ≤ cs.count sep + 1 := by
  induction cs generalizing s with
  | nil => exact Nat.le_refl 1
  | cons c cs ih =>
      by_cases hc : s = .start ∧ c = sep
      · simp only [cut, hc, and_self, if_true, List.length_cons, List.count_cons_self]
        exact Nat.succ_le_succ ih
      · simp only [cut, hc, if_false, List.length_modifyHead]
        exact Nat.le_trans ih (Nat.succ_le_succ List.count_le_count_cons)

/-- Putting the separators back gives the text. -/
@[simp]
theorem intercalate_cut : [sep].intercalate (cut sep s cs) = cs := by
  induction cs generalizing s with
  | nil => rfl
  | cons c cs ih =>
      by_cases hc : s = .start ∧ c = sep
      · simp only [cut, hc, and_self, if_true]
        rw [List.intercalate_cons_of_ne_nil cut_ne_nil, ih, List.nil_append, List.singleton_append]
      · simp only [cut, hc, if_false]
        -- The character goes back to the front of the first piece, and there is one.
        have hne : cut sep (s.next c) cs ≠ [] := cut_ne_nil
        have hcs := ih (s := s.next c)
        cases hcut : cut sep (s.next c) cs with
        | nil => exact absurd hcut hne
        | cons p ps =>
            rw [hcut] at hcs
            rw [List.modifyHead_cons, List.intercalate_cons_cons_left, hcs]

end

variable {sep : Char} {s t : String}

theorem pieces_append (hsep : Scan.start.next sep = .start) (h : Closed [] s) :
    pieces sep (s ++ String.singleton sep ++ t) = pieces sep s ++ pieces sep t := by
  have hlist : (s ++ String.singleton sep ++ t).toList = s.toList ++ sep :: t.toList := by
    simp only [String.toList_append, String.toList_singleton, List.append_assoc,
      List.singleton_append]
  rw [pieces, hlist, cut_append hsep h, List.map_append, pieces, pieces]

theorem pieces_eq_singleton (h : Closed [sep] s) : pieces sep s = [s] := by
  rw [pieces, cut_eq_singleton h, List.map_cons, List.map_nil, String.ofList_toList]

theorem pieces_injective (h : pieces sep s = pieces sep t) : s = t := by
  have hcut : cut sep .start s.toList = cut sep .start t.toList :=
    (List.map_inj_right fun _ _ => String.ofList_inj.mp).mp h
  have hjoined := congrArg [sep].intercalate hcut
  rw [intercalate_cut, intercalate_cut] at hjoined
  exact String.toList_inj.mp hjoined

/-- Joined closed texts are found again. What follows the separator in a joint
    stays in front of the next text. -/
theorem pieces_intercalate {pad p : String} {ps : List String}
    (hsep : Scan.start.next sep = .start) (hpad : Closed [sep] pad)
    (h : ∀ q ∈ p :: ps, Closed [sep] q) :
    pieces sep ((String.singleton sep ++ pad).intercalate (p :: ps)) =
      p :: ps.map (pad ++ ·) := by
  -- The first piece is generalized, since in the step the joint's rest is in front of it.
  induction ps generalizing p with
  | nil =>
      rw [String.intercalate_singleton, pieces_eq_singleton (h p List.mem_cons_self), List.map_nil]
  | cons q qs ih =>
      have hp := h p List.mem_cons_self
      have hq := h q (List.mem_cons_of_mem _ List.mem_cons_self)
      have hqs : ∀ r ∈ (pad ++ q) :: qs, Closed [sep] r := by
        intro r hr
        rcases List.mem_cons.mp hr with rfl | hr
        · exact hpad.append hq
        · exact h r (List.mem_cons_of_mem _ (List.mem_cons_of_mem _ hr))
      have hjoint : (String.singleton sep ++ pad).intercalate (p :: q :: qs) =
          p ++ String.singleton sep ++
            (String.singleton sep ++ pad).intercalate ((pad ++ q) :: qs) := by
        rw [String.intercalate_cons_cons, String.intercalate_cons_append]
        simp only [String.append_assoc]
      rw [hjoint, pieces_append hsep (hp.mono (List.nil_subset _)), pieces_eq_singleton hp, ih hqs,
        List.singleton_append, List.map_cons]

-- A join of closed texts is cut where it was joined.
theorem pieces_joined {sep : Char} {ts : List String} (hsep : Scan.start.next sep = .start)
    (hne : ts ≠ []) (h : ∀ t ∈ ts, Closed [sep] t) :
    pieces sep ((String.singleton sep).intercalate ts) = ts := by
  cases ts with
  | nil => exact absurd rfl hne
  | cons t ts =>
      have hpieces := pieces_intercalate hsep (closed_empty : Closed [sep] "") h
      rw [String.append_empty] at hpieces
      rw [hpieces]
      simp only [String.empty_append, List.map_id']

/-- What stands between joined texts: the separator, and a closed pad behind it. -/
def IsJoint (sep : Char) (joint : String) : Prop :=
  ∃ pad, joint = String.singleton sep ++ pad ∧ Closed [sep] pad

theorem isJoint_singleton : IsJoint sep (String.singleton sep) :=
  ⟨"", String.append_empty.symm, closed_empty⟩

/-- A join of closed texts determines them. -/
theorem intercalate_inj {joint : String} {ps qs : List String} (hjoint : IsJoint sep joint)
    (hsep : Scan.start.next sep = .start) (hps : ∀ p ∈ ps, Closed [sep] p)
    (hqs : ∀ q ∈ qs, Closed [sep] q) (hne : ps ≠ []) (hne' : qs ≠ [])
    (h : joint.intercalate ps = joint.intercalate qs) : ps = qs := by
  rcases hjoint with ⟨pad, rfl, hpad⟩
  cases ps with
  | nil => exact absurd rfl hne
  | cons p ps =>
      cases qs with
      | nil => exact absurd rfl hne'
      | cons q qs =>
          -- The pad stands in front of every piece but the first, and is taken off again.
          have hpieces := congrArg (pieces sep) h
          rw [pieces_intercalate hsep hpad hps, pieces_intercalate hsep hpad hqs,
            List.cons.injEq] at hpieces
          have htail : ps = qs :=
            (List.map_inj_right fun _ _ => (String.append_right_inj pad).mp).mp hpieces.2
          rw [hpieces.1, htail]

/-- A list is cut in one way only behind the last of some element. -/
theorem split_last {α : Type} {a : α} {xs ys xs' ys' : List α}
    (h : xs ++ a :: ys = xs' ++ a :: ys') (hys : a ∉ ys) (hys' : a ∉ ys') :
    xs = xs' ∧ ys = ys' := by
  -- If one cut falls behind the other, the element stands once more behind that one.
  rcases List.append_eq_append_iff.mp h with ⟨zs, hxs, htail⟩ | ⟨zs, hxs, htail⟩
  · cases zs with
    | nil =>
        rw [List.append_nil] at hxs
        rw [List.nil_append, List.cons.injEq] at htail
        exact ⟨hxs.symm, htail.2⟩
    | cons z zs =>
        rw [List.cons_append, List.cons.injEq] at htail
        refine absurd ?_ hys
        rw [htail.2]
        exact List.mem_append_right zs List.mem_cons_self
  · cases zs with
    | nil =>
        rw [List.append_nil] at hxs
        rw [List.nil_append, List.cons.injEq] at htail
        exact ⟨hxs, htail.2.symm⟩
    | cons z zs =>
        rw [List.cons_append, List.cons.injEq] at htail
        refine absurd ?_ hys'
        rw [htail.2]
        exact List.mem_append_right zs List.mem_cons_self

/-- And in one way only in front of the first. -/
theorem split_first {α : Type} {a : α} {xs ys xs' ys' : List α}
    (h : xs ++ a :: ys = xs' ++ a :: ys') (hxs : a ∉ xs) (hxs' : a ∉ xs') :
    xs = xs' ∧ ys = ys' := by
  have hreverse := congrArg List.reverse h
  simp only [List.reverse_append, List.reverse_cons, List.append_assoc, List.singleton_append]
    at hreverse
  rcases split_last hreverse (mt List.mem_reverse.mp hxs) (mt List.mem_reverse.mp hxs')
    with ⟨hys, hxs⟩
  exact ⟨List.reverse_inj.mp hxs, List.reverse_inj.mp hys⟩

/-- A text is cut in one way only at the first of some character. -/
theorem before_inj {c : Char} {s s' t t' : String} (hs : Avoids [c] s) (hs' : Avoids [c] s')
    (h : s ++ (String.singleton c ++ t) = s' ++ (String.singleton c ++ t')) : s = s' ∧ t = t' := by
  have hlist := congrArg String.toList h
  simp only [String.toList_append, String.toList_singleton, List.singleton_append] at hlist
  rcases split_first hlist (hs.not_mem List.mem_cons_self) (hs'.not_mem List.mem_cons_self)
    with ⟨hleft, hright⟩
  exact ⟨String.toList_inj.mp hleft, String.toList_inj.mp hright⟩

-- A text without the separator does not begin with some text and the separator.
theorem Avoids.ne_append (h : Avoids [sep] s) (p : String) :
    s ≠ p ++ (String.singleton sep ++ t) := by
  rintro rfl
  refine h.not_mem List.mem_cons_self ?_
  simp only [String.toList_append, String.toList_singleton, List.singleton_append]
  exact List.mem_append_right _ List.mem_cons_self

/-- A join of texts without the separator determines them. Quotes and
    parentheses need not be paired, as nothing has to be skipped. -/
theorem intercalate_inj_of_avoids {joint pad : String} {ps qs : List String}
    (hjoint : joint = String.singleton sep ++ pad) (hps : ∀ p ∈ ps, Avoids [sep] p)
    (hqs : ∀ q ∈ qs, Avoids [sep] q) (hne : ps ≠ []) (hne' : qs ≠ [])
    (h : joint.intercalate ps = joint.intercalate qs) : ps = qs := by
  induction ps generalizing qs with
  | nil => exact absurd rfl hne
  | cons p ps ih =>
      cases qs with
      | nil => exact absurd rfl hne'
      | cons q qs =>
          rw [List.forall_mem_cons] at hps hqs
          -- What follows the first text, if anything, begins with the separator.
          have hcut {r : String} {rs : List String} (hrs : rs ≠ []) :
              joint.intercalate (r :: rs) =
                r ++ (String.singleton sep ++ (pad ++ joint.intercalate rs)) := by
            rw [String.intercalate_cons_of_ne_nil hrs]
            simp only [hjoint, String.append_assoc]
          by_cases hnil : ps = []
          · by_cases hnil' : qs = []
            · rw [hnil, hnil', String.intercalate_singleton, String.intercalate_singleton] at h
              rw [hnil, hnil', h]
            · rw [hnil, String.intercalate_singleton, hcut hnil'] at h
              exact absurd h (hps.1.ne_append q)
          · by_cases hnil' : qs = []
            · rw [hnil', String.intercalate_singleton, hcut hnil] at h
              exact absurd h.symm (hqs.1.ne_append p)
            · rw [hcut hnil, hcut hnil'] at h
              rcases before_inj hps.1 hqs.1 h with ⟨hfirst, hrest⟩
              rw [hfirst, ih hps.2 hqs.2 hnil hnil' ((String.append_right_inj pad).mp hrest)]

end Text

end OData
