import OData.Proofs.Faithful
import OData.Proofs.Violation

/-!
# Reading a Query Back

Validation looks at a query before it is written, and a service sees only what
was written. Here the two are held against each other. The limits are asked of
the text itself, as a reader finds it who knows nothing of how it was made, and
the text keeps them exactly when the query passes.

The reader cuts. Behind the question mark the options stand between
ampersands, and inside the block of a relation between semicolons. An option
is its key, an equals sign and a value. The value of `$expand` holds relations
between commas, and a relation has a block if a parenthesis opens in it. All
cuts are made outside quotes and parentheses. `Shows` says which options a text
shows in this way, and under how many `$expand`s.

A relation without a block shows nothing. It has no options, so there is
nothing to check either, and the depth at which it stands is checked where it
is expanded.

## Main definitions

* `Shows`: The options that a text shows at some depth.
* `Gives`: One of several options gives a value for a key.
* `Limits.Allows`: The options at some depth are within the limits.
* `Level.written`: The options that a level is written as.

## Theorems

* `length_pieces_listed`: The entries of a list are counted in its text.
* `Level.allows_written_iff`: They hold when what the level is written as is
  allowed.
* `Relation.pieces_block_iff`: The block of a relation is found in its text.
* `Shows.exists_level`, `Query.shows_written`: A query shows what its levels
  are written as, and nothing else.
* `validated_iff_sent_within`: What is validated is what is sent.
-/

namespace OData

open Text

/-- One of several options, as they were written, gives a value for a key. -/
def Gives (written : List String) (key value : String) : Prop :=
  key ++ "=" ++ value ∈ written

/-- The options that a text shows under some number of `$expand`s. -/
inductive Shows (text : String) : Nat → List String → Prop
  /-- Those of the whole query stand behind the question mark. -/
  | outermost {body : String} (htext : text = "?" ++ body) : Shows text 0 (pieces '&' body)
  /-- Those of a relation stand in its block, which opens at the first
      parenthesis and goes to the end. -/
  | block {depth : Nat} {written : List String} {value head inside : String}
      (h : Shows text depth written) (hexpand : Gives written "$expand" value)
      (hrelation : head ++ ("(" ++ (inside ++ ")")) ∈ pieces ',' value)
      (hhead : Avoids ['('] head) : Shows text (depth + 1) (pieces ';' inside)

/-- What is written at some depth is within the limits. -/
structure Limits.Allows (ls : Limits) (depth : Nat) (written : List String) : Prop where
  /-- The value of `$top` is a number that is small enough. -/
  top : ∀ value, Gives written "$top" value →
    (∀ c ∈ value.toList, c.isDigit = true) ∧ ofDigits value.toList ≤ ls.maxTop
  /-- The value of `$orderby` has few enough entries. -/
  orderby : ∀ value, Gives written "$orderby" value →
    (pieces ',' value).length ≤ ls.maxOrderbyFields
  /-- The value of `$select` has few enough entries. -/
  select : ∀ value, Gives written "$select" value →
    (pieces ',' value).length ≤ ls.maxSelectFields
  /-- The value of `$filter` is short enough. -/
  filter : ∀ value, Gives written "$filter" value → value.length ≤ ls.maxFilterLength
  /-- What is expanded does not stand under too many `$expand`s. -/
  expand : ∀ value, Gives written "$expand" value → depth + 1 ≤ ls.maxExpandDepth

theorem Gives.iff_mem {ps : List Parameter} {option : SystemOption} {value : String} :
    Gives (ps.map Parameter.text) option.key value ↔ ⟨option, value⟩ ∈ ps := by
  constructor
  · intro h
    rcases List.mem_map.mp h with ⟨p, hp, htext⟩
    -- The key ends at the first equals sign, so the text is that of no other parameter.
    have hp' : p = ⟨option, value⟩ := Parameter.text_injective htext
    rw [← hp']
    exact hp
  · exact fun h => List.mem_map_of_mem h

namespace Level

/-- The grammar that a level is written in. -/
def grammar (l : Level) : Grammar :=
  if l.depth = 0 then .topLevel else .block

/-- The options that a level is written as. -/
def written (l : Level) : List Parameter :=
  l.query.options.parameters l.grammar (l.query.expands.map Relation.text)

/-- The names at a level and everything inside it are names, and the filters
    are closed. -/
structure Named (l : Level) : Prop where
  options : l.query.options.Tidy IsName
  relations : ∀ r : Relation, r.Inside l.query.expands → r.Tidy IsName

@[simp]
theorem written_root (q : Query) : written ⟨0, q⟩ = q.params := by
  rw [Query.params, Relation.texts_eq_map]
  rfl

@[simp]
theorem written_expanded (depth : Nat) (r : Relation) :
    written ⟨depth + 1, r.query⟩ = r.operators := by
  rw [Relation.operators_eq]
  rfl

variable {l : Level}

-- What a level expands is named as well.
theorem Named.expanded {depth : Nat} {s : Relation} (h : l.Named) (hs : s ∈ l.query.expands) :
    Named ⟨depth, s.query⟩ :=
  ⟨(h.relations s (.here hs)).options, fun r hr => h.relations r (.deeper hs hr)⟩

theorem Named.closed_texts {stops : List Char} (hstops : stops ⊆ Filter.separators) (h : l.Named) :
    ∀ t ∈ l.query.expands.map Relation.text, Closed stops t :=
  Relation.closed_texts hstops (fun _ ht => ht.closed hstops) h.relations

theorem grammar_mem (l : Level) : l.grammar ∈ [Grammar.topLevel, Grammar.block] := by
  unfold grammar
  split <;> decide

@[simp]
theorem expandSeparator_grammar (l : Level) : l.grammar.expandSeparator = "," := by
  unfold grammar
  split <;> rfl

-- A level gives an option the value it has there. Both grammars write every
-- option but grouping.
theorem gives_written_iff (option : SystemOption) (happly : option ≠ .apply) {value : String} :
    Gives (l.written.map Parameter.text) option.key value ↔
      l.query.options.value? l.grammar (l.query.expands.map Relation.text) option =
        some value := by
  have horder : option ∈ l.grammar.order := by
    unfold grammar
    split <;> cases option <;> first | exact absurd rfl happly | decide
  rw [Gives.iff_mem, written, Options.mem_parameters_iff]
  exact and_iff_right horder

end Level

-- A list has as many entries in its text, whatever follows the commas.
theorem length_pieces_listed {joint value : String} {ts : List String} (hjoint : IsJoint ',' joint)
    (h : ∀ t ∈ ts, Closed [','] t) (hvalue : listed? joint ts = some value) :
    (pieces ',' value).length = ts.length := by
  rcases listed?_eq_some_iff.mp hvalue with ⟨hne, rfl⟩
  rcases hjoint with ⟨pad, rfl, hpad⟩
  cases ts with
  | nil => exact absurd rfl hne
  | cons t ts =>
      rw [pieces_intercalate rfl hpad h]
      simp only [List.length_cons, List.length_map]

@[simp]
theorem ofDigits_decimal (n : Nat) : ofDigits (decimal n).toList = n := by
  simp [decimal]

theorem isDigit_of_mem_decimal {n : Nat} {c : Char} (h : c ∈ (decimal n).toList) :
    c.isDigit = true := by
  rw [decimal, String.toList_ofList] at h
  exact isDigit_of_mem_digits h

-- A list of names keeps a cap on its length exactly when its text does. An
-- empty list has no text and keeps every cap.
theorem listed_length_le_iff (max : Nat) {joint : String} {ts : List String}
    (hjoint : IsJoint ',' joint) (h : ∀ t ∈ ts, IsName t) :
    (∀ value, listed? joint ts = some value → (pieces ',' value).length ≤ max) ↔
      ts.length ≤ max := by
  have hclosed : ∀ t ∈ ts, Closed [','] t := fun t ht => (h t ht).closed (by decide)
  constructor
  · intro hle
    cases hvalue : listed? joint ts with
    | none =>
        rw [listed?_eq_none_iff.mp hvalue]
        exact Nat.zero_le _
    | some value =>
        rw [← length_pieces_listed hjoint hclosed hvalue]
        exact hle value hvalue
  · intro hle value hvalue
    rw [length_pieces_listed hjoint hclosed hvalue]
    exact hle

namespace Level

variable {ls : Limits} {l : Level}

theorem allows_written_iff (h : l.Named) :
    (∀ c ∈ l.checks, c.Holds ls) ↔ ls.Allows l.depth (l.written.map Parameter.text) := by
  have hjoint : ∀ sep ∈ l.grammar.separators, IsJoint ',' sep := fun _ =>
    Grammar.isJoint_of_mem_separators l.grammar_mem
  simp only [Grammar.separators, List.forall_mem_cons] at hjoint
  rcases hjoint with ⟨hselects, horderbys, -⟩
  rw [checks_hold_iff, ← listed_length_le_iff ls.maxOrderbyFields horderbys h.options.orderby,
    ← listed_length_le_iff ls.maxSelectFields hselects h.options.select]
  -- Cap by cap, the value that is written gives back the one that was checked.
  constructor
  · rintro ⟨htop, horderby, hselect, hfilter, hexpand⟩
    refine ⟨?_, ?_, ?_, ?_, ?_⟩
    · intro value hvalue
      have hvalue := (gives_written_iff .top (by decide)).mp hvalue
      rcases Option.map_eq_some_iff.mp hvalue with ⟨n, hn, rfl⟩
      rw [ofDigits_decimal]
      exact ⟨fun c hc => isDigit_of_mem_decimal hc, htop n hn⟩
    · intro value hvalue
      exact horderby value ((gives_written_iff .orderby (by decide)).mp hvalue)
    · intro value hvalue
      exact hselect value ((gives_written_iff .select (by decide)).mp hvalue)
    · intro value hvalue
      have hvalue := (gives_written_iff .filter (by decide)).mp hvalue
      rcases Option.map_eq_some_iff.mp hvalue with ⟨f, hf, rfl⟩
      exact hfilter f hf
    · intro value hvalue
      have hvalue := (gives_written_iff .expand (by decide)).mp hvalue
      exact hexpand (mt List.map_eq_nil_iff.mpr (listed?_eq_some_iff.mp hvalue).1)
  · rintro ⟨htop, horderby, hselect, hfilter, hexpand⟩
    refine ⟨?_, ?_, ?_, ?_, ?_⟩
    · intro n hn
      have hvalue : l.query.options.value? l.grammar (l.query.expands.map Relation.text) .top =
          some (decimal n) := congrArg (Option.map decimal) hn
      have hle := (htop _ ((gives_written_iff .top (by decide)).mpr hvalue)).2
      rw [ofDigits_decimal] at hle
      exact hle
    · intro value hvalue
      exact horderby value ((gives_written_iff .orderby (by decide)).mpr hvalue)
    · intro value hvalue
      exact hselect value ((gives_written_iff .select (by decide)).mpr hvalue)
    · intro f hf
      have hvalue : l.query.options.value? l.grammar (l.query.expands.map Relation.text) .filter =
          some f.text := congrArg (Option.map Filter.text) hf
      exact hfilter _ ((gives_written_iff .filter (by decide)).mpr hvalue)
    · intro hne
      have htexts : l.query.expands.map Relation.text ≠ [] := mt List.map_eq_nil_iff.mp hne
      exact hexpand _ ((gives_written_iff .expand (by decide)).mpr (Options.value?_expand htexts))

-- What a level expands stands between the commas of its `$expand`.
theorem mem_pieces_expand_iff (h : l.Named) {value t : String}
    (hvalue : Gives (l.written.map Parameter.text) "$expand" value) :
    t ∈ pieces ',' value ↔ ∃ s ∈ l.query.expands, s.text = t := by
  rcases listed?_eq_some_iff.mp ((gives_written_iff .expand (by decide)).mp hvalue) with ⟨hne, rfl⟩
  rw [expandSeparator_grammar]
  have hpieces : pieces ',' (",".intercalate (l.query.expands.map Relation.text)) =
      l.query.expands.map Relation.text :=
    pieces_joined rfl hne (h.closed_texts (by decide))
  rw [hpieces, List.mem_map]

end Level

/-- The block of a relation opens at the first parenthesis of its text and
    holds its operators between the semicolons. -/
theorem Relation.pieces_block_iff {r : Relation} (hr : r.Tidy IsName)
    (hin : ∀ s : Relation, s.Inside r.expands → s.Tidy IsName) {written : List String} :
    (∃ head inside, r.text = head ++ ("(" ++ (inside ++ ")")) ∧ Avoids ['('] head ∧
        pieces ';' inside = written) ↔
      r.operators ≠ [] ∧ r.operators.map Parameter.text = written := by
  have hname (t : String) (ht : IsName t) : Closed [';'] t := ht.closed (by decide)
  have hclosed := closed_operators (by decide) hname hr (closed_texts (by decide) hname hin)
  have hpieces (hne : r.operators ≠ []) :
      pieces ';' (";".intercalate (r.operators.map Parameter.text)) =
        r.operators.map Parameter.text :=
    pieces_joined rfl (mt List.map_eq_nil_iff.mp hne) hclosed
  have hparts (hne : r.operators ≠ []) : r.text = r.head ++ ("(" ++
      (";".intercalate (r.operators.map Parameter.text) ++ ")")) := by
    rw [text_eq, if_neg hne, block_eq]
    rfl
  constructor
  · rintro ⟨head, inside, htext, hhead, rfl⟩
    have hopen : '(' ∈ r.text.toList := by
      rw [htext, String.toList_append, String.toList_append]
      exact List.mem_append_right _ (List.mem_append_left _ (by decide))
    have hne := (open_mem_text_iff hr.key).mp hopen
    rw [hparts hne] at htext
    have hinside := (String.append_left_inj _).mp (before_inj (avoids_head hr.key) hhead htext).2
    rw [← hinside, hpieces hne]
    exact ⟨hne, rfl⟩
  · rintro ⟨hne, rfl⟩
    exact ⟨r.head, _, hparts hne, avoids_head hr.key, hpieces hne⟩

-- The parameters of a query stand behind the question mark.
theorem Query.text_eq_mark_iff {q : Query} {body : String} :
    q.text = "?" ++ body ↔
      q.params ≠ [] ∧ "&".intercalate (q.params.map Parameter.text) = body := by
  unfold text
  simp only [List.isEmpty_iff]
  by_cases hne : q.params = []
  · rw [if_pos hne]
    exact ⟨fun h => absurd h (empty_ne_mark body), fun h => absurd hne h.1⟩
  · rw [if_neg hne, String.append_right_inj]
    exact (and_iff_right hne).symm

section

variable {q : Query}

theorem Query.Named.level (hq : q.Named) : ∀ l ∈ q.levels, l.Named :=
  level_induction ⟨hq.tidy.options, hq.tidy.relations⟩ fun _ _ hl hs => hl.expanded hs

theorem Query.Named.pieces_params (hq : q.Named) (hne : q.params ≠ []) :
    pieces '&' ("&".intercalate (q.params.map Parameter.text)) = q.params.map Parameter.text :=
  pieces_joined rfl (mt List.map_eq_nil_iff.mp hne)
    (closed_params (by decide) (fun _ ht => ht.closed (by decide)) hq.tidy hq.closed_aggregator)

/-- A query shows nothing but what its levels are written as. -/
theorem Shows.exists_level (hq : q.Named) {depth : Nat} {written : List String}
    (h : Shows q.text depth written) :
    ∃ l ∈ q.levels, l.depth = depth ∧ l.written.map Parameter.text = written := by
  induction h with
  | outermost htext =>
      rcases Query.text_eq_mark_iff.mp htext with ⟨hne, rfl⟩
      refine ⟨⟨0, q⟩, List.mem_cons_self, rfl, ?_⟩
      simp [hq.pieces_params hne]
  | block _ hexpand hrelation hhead ih =>
      -- The block is that of a relation which was cut out of a level found before.
      rcases ih with ⟨l, hl, rfl, rfl⟩
      have hnamed := hq.level l hl
      rcases (Level.mem_pieces_expand_iff hnamed hexpand).mp hrelation with ⟨s, hs, htext⟩
      rcases (Relation.pieces_block_iff (hnamed.relations s (.here hs)) fun r hr =>
        hnamed.relations r (.deeper hs hr)).mp ⟨_, _, htext, hhead, rfl⟩ with ⟨_, hwritten⟩
      refine ⟨⟨l.depth + 1, s.query⟩, Query.expanded_mem_levels hl hs, rfl, ?_⟩
      simp [hwritten]

/-- And it shows every one that is written as anything. -/
theorem Query.shows_written (hq : q.Named) :
    ∀ l ∈ q.levels, l.written ≠ [] → Shows q.text l.depth (l.written.map Parameter.text) := by
  suffices hshows : ∀ l ∈ q.levels, l.Named ∧
      (l.written ≠ [] → Shows q.text l.depth (l.written.map Parameter.text)) from
    fun l hl => (hshows l hl).2
  refine level_induction ⟨⟨hq.tidy.options, hq.tidy.relations⟩, fun hne => ?_⟩ ?_
  · rw [Level.written_root] at hne ⊢
    rw [← hq.pieces_params hne]
    exact .outermost (text_eq_mark_iff.mpr ⟨hne, rfl⟩)
  · rintro l s ⟨hnamed, hshows⟩ hs
    refine ⟨hnamed.expanded hs, fun hne => ?_⟩
    rw [Level.written_expanded] at hne ⊢
    -- What is expanded at a level is written there, so that level is shown already.
    have hexpand : Gives (l.written.map Parameter.text) "$expand"
        (l.grammar.expandSeparator.intercalate (l.query.expands.map Relation.text)) :=
      (Level.gives_written_iff .expand nofun).mpr
        (Options.value?_expand (List.ne_nil_of_mem (List.mem_map_of_mem hs)))
    have houter : l.written ≠ [] := fun hnil =>
      List.ne_nil_of_mem hexpand (List.map_eq_nil_iff.mpr hnil)
    rcases (Relation.pieces_block_iff (hnamed.relations s (.here hs)) fun r hr =>
      hnamed.relations r (.deeper hs hr)).mpr ⟨hne, rfl⟩ with ⟨head, inside, htext, hhead, hblock⟩
    rw [← hblock]
    refine .block (hshows houter) hexpand ?_ hhead
    exact (Level.mem_pieces_expand_iff hnamed hexpand).mpr ⟨s, hs, htext⟩

end

-- What is written as nothing is within all limits.
theorem Limits.allows_nil (ls : Limits) (depth : Nat) : ls.Allows depth [] :=
  ⟨nofun, nofun, nofun, nofun, nofun⟩

/-- What is validated is what is sent. A query of closed fragments and names is
    within its limits exactly when everything that can be read out of its text,
    at any depth, is within them. -/
theorem validated_iff_sent_within (ls : Limits) (q : Query) (hq : q.Named) :
    ls.validate q = .ok () ↔
      ∀ depth written, Shows q.text depth written → ls.Allows depth written := by
  rw [Limits.validate_eq_ok_iff]
  constructor
  · intro h depth written hshows
    rcases hshows.exists_level hq with ⟨l, hl, rfl, rfl⟩
    exact (Level.allows_written_iff (hq.level l hl)).mp (h l hl)
  · intro h l hl
    rw [Level.allows_written_iff (hq.level l hl)]
    by_cases hne : l.written = []
    · rw [hne]
      exact ls.allows_nil l.depth
    · exact h l.depth _ (Query.shows_written hq l hl hne)

/-- A query two `$expand`s deep, with separators in a literal and a filter that
    grows when it is joined. Limits that it keeps are kept by what is sent, and
    limits that only the inner relation or only the joined filter breaks are
    not. -/
theorem nested_relation_sent_within :
    let tags : Relation := { key := "tags", options := { take := some 5, select := ["a", "b"] } }
    let posts : Relation := { key := "posts", strict := true, expands := [tags] }
    let outer : Options :=
      { filters := [⟨"name eq 'a, b; (c & d'"⟩, ⟨"age gt 1 or age eq null"⟩]
        orderby := ["id desc", "name"], take := some 20 }
    let q : Query := ⟨outer, [posts]⟩
    let wide : Limits :=
      { maxTop := 20, maxFilterLength := 52, maxOrderbyFields := 2, maxSelectFields := 2
        maxExpandDepth := 2 }
    q.Named ∧ (∀ depth written, Shows q.text depth written → wide.Allows depth written) ∧
      (∀ ls ∈ [{ wide with maxExpandDepth := 1 }, { wide with maxFilterLength := 51 }],
        ¬ ∀ depth written, Shows q.text depth written → ls.Allows depth written) := by
  intro tags posts outer q wide
  have hrelations : ∀ r : Relation, r.Inside [posts] → r.Tidy IsName := by
    refine Relation.forall_inside_singleton ⟨(by decide : IsName "posts"), ⟨nofun, nofun, nofun⟩⟩ ?_
    exact Relation.forall_inside_singleton
      ⟨(by decide : IsName "tags"), ⟨nofun, by decide, nofun⟩⟩ fun r hr =>
        absurd hr r.not_inside_nil
  have hq : q.Named := ⟨⟨⟨by decide, nofun, by decide⟩, nofun, hrelations⟩, nofun⟩
  refine ⟨hq, (validated_iff_sent_within wide q hq).mp rfl, ?_⟩
  have hfail : ∀ ls ∈ [{ wide with maxExpandDepth := 1 }, { wide with maxFilterLength := 51 }],
      ls.validate q ≠ .ok () := by
    decide
  intro ls hls h
  exact hfail ls hls ((validated_iff_sent_within ls q hq).mpr h)

end OData
