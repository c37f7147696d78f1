import TextShell.Proofs.Template

/-!
# Regions of templates

A template is data: a text and any list of regions.  The rules that a scan keeps are
stated here of the regions themselves, as `Regular`: they tile the text, and what
stands on both sides of a border could not have been one region.  Regular templates
and those that are read from literals are the same.

## Main results

* `canonical_iff_regular` — the rules of regions say the same as those of stretches.
* `parse_regular` — every literal is read as a regular template.
* `parse_print_inverse` — a regular template is read back from what it prints as.
* `expansion_removes_dollars` — expansion takes away the `$` of variables and nothing else.
-/

namespace TextShell

namespace Template

/-! ## The rules of regions -/

/-- Each region starts where the one before it stops, from `start` on up to `stop`. -/
def Tiles : Int → List Region → Int → Prop
  | start, [], stop => start = stop
  | start, r :: rs, stop => r.start = start ∧ Tiles r.stop rs stop

/-- The text starts with a character that ends an identifier. -/
def StartsAtBoundary (s : String) : Prop :=
  ∃ c, s.toList.head? = some c ∧ isIdentifierChar c = false

/-- A template whose regions tile its text and whose borders are where a scan puts them. -/
structure Regular (t : Template) : Prop where
  /-- No region is empty. -/
  nonempty : ∀ r ∈ t.regions, r.start < r.stop
  /-- The regions follow one another from the start of the text to its end. -/
  tiles : Tiles 0 t.regions t.text.length
  /-- Variables are named by identifier characters. -/
  names : ∀ name ∈ t.variableNames, ∀ c ∈ name.toList, isIdentifierChar c = true
  /-- Of two regions side by side, one is a variable. -/
  apart : t.regions.IsChain fun a b => ¬(a.kind = .literal ∧ b.kind = .literal)
  /-- A literal behind a variable starts with what ends the variable. -/
  bounded : t.pieces.IsChain fun a b =>
    a.1 = .variable → b.1 = .literal → StartsAtBoundary b.2

theorem Tiles.le {start stop : Int} {rs : List Region} (h : Tiles start rs stop)
    (hne : ∀ r ∈ rs, r.start < r.stop) : start ≤ stop := by
  induction rs generalizing start with
  | nil =>
      obtain rfl : start = stop := h
      exact le_rfl
  | cons r rs ih =>
      have hr := hne r (by simp)
      have hrest := ih h.2 fun r' hr' => hne r' (by simp [hr'])
      have hstart := h.1
      omega

theorem tiles_concat {start stop : Int} {rs : List Region} {r : Region} :
    Tiles start (rs ++ [r]) stop ↔ Tiles start rs r.start ∧ r.stop = stop := by
  induction rs generalizing start with
  | nil => exact ⟨fun h => ⟨h.1.symm, h.2⟩, fun h => ⟨h.1.symm, h.2⟩⟩
  | cons r' rs ih =>
      rw [List.cons_append, Tiles, Tiles, ih, and_assoc]

/-! ## Regions of stretches -/

theorem tiles_regionsOf (ss : List Stretch) :
    Tiles 0 (regionsOf ss).reverse (width ss) := by
  induction ss with
  | nil => rfl
  | cons s ss ih =>
      rw [regionsOf, List.reverse_cons, width_cons, tiles_concat]
      refine ⟨ih, ?_⟩
      push_cast
      omega

/-- The regions of stretches have their kinds. -/
theorem map_kind_regionsOf (ss : List Stretch) :
    (regionsOf ss).map Region.kind = ss.map Prod.fst := by
  induction ss with
  | nil => rfl
  | cons s ss ih => rw [regionsOf, List.map_cons, List.map_cons, ih]

theorem lt_of_mem_regionsOf {ss : List Stretch} (h : Tidy ss) :
    ∀ r ∈ regionsOf ss, r.start < r.stop := by
  induction ss with
  | nil => simp [regionsOf]
  | cons s ss ih =>
      have hpos : 0 < s.2.length := List.length_pos_iff.2 h.chars_ne_nil
      rw [regionsOf, List.forall_mem_cons]
      refine ⟨?_, ih h.tail⟩
      change (width ss : Int) < width ss + s.2.length
      omega

/-- A stretch as a piece of its template. -/
def Stretch.piece (s : Stretch) : RegionKind × String := (s.1, String.ofList s.2.reverse)

theorem pieces_eq_map (ss : List Stretch) :
    (ofStretches ss).pieces = ss.reverse.map Stretch.piece := by
  rw [pieces_ofStretches, ← List.map_reverse]
  rfl

/-- What may stand to the left of a stretch. -/
def Borders (a b : Stretch) : Prop :=
  b.1 = .literal → a.1 = .variable ∧ StartsAtBoundary b.piece.2

theorem Tidy.borders {ss : List Stretch} (h : Tidy ss) :
    ss.reverse.IsChain Borders := by
  rw [List.isChain_reverse]
  induction h with
  | nil => exact .nil
  | @name cs ss hne hid hss ih =>
      cases ss with
      | nil => exact .singleton _
      | cons s ss => exact .cons_cons nofun ih
  | @plain cs c ss hc hss ih =>
      match ss, hc, ih with
      | [], _, _ => exact .singleton _
      | (.variable, ds) :: ss, hc, ih =>
        refine .cons_cons (fun _ => ⟨rfl, c, ?_, hc⟩) ih
        simp [Stretch.piece]

theorem Tidy.isIdentifierChar {ss : List Stretch} (h : Tidy ss) {cs : List Char}
    (hs : (.variable, cs) ∈ ss) : ∀ c ∈ cs, isIdentifierChar c = true := by
  induction h with
  | nil => cases hs
  | name _ hid _ ih =>
      rcases List.mem_cons.1 hs with hs | hs
      · obtain ⟨-, rfl⟩ := Prod.mk.inj hs
        exact hid
      · exact ih hs
  | plain _ _ _ ih =>
      rcases List.mem_cons.1 hs with hs | hs
      · cases hs
      · exact ih hs

/-- Tidy stretches make a regular template. -/
theorem Tidy.regular {ss : List Stretch} (h : Tidy ss) : (ofStretches ss).Regular where
  nonempty r hr := lt_of_mem_regionsOf h r (List.mem_reverse.1 hr)
  tiles := by
    have hlen : (ofStretches ss).text.length = width ss := by
      rw [ofStretches, String.length_ofList, List.length_reverse, width]
    rw [hlen]
    exact tiles_regionsOf ss
  names := by
    intro name hname c hc
    rw [variableNames, pieces_eq_map, List.mem_filterMap] at hname
    obtain ⟨_, hpiece, hkind⟩ := hname
    obtain ⟨⟨kind, cs⟩, hs, rfl⟩ := List.mem_map.1 hpiece
    split at hkind
    · next hvariable =>
      obtain rfl : kind = .variable := hvariable
      obtain rfl := Option.some.inj hkind
      exact h.isIdentifierChar (List.mem_reverse.1 hs) c (by simpa [Stretch.piece] using hc)
    · cases hkind
  apart := by
    have hkinds : ((ofStretches ss).regions.map Region.kind).IsChain
        fun a b => ¬(a = .literal ∧ b = .literal) := by
      rw [ofStretches, List.map_reverse, map_kind_regionsOf, ← List.map_reverse,
        List.isChain_map]
      refine h.borders.imp fun a b hab hboth => ?_
      rw [(hab hboth.2).1] at hboth
      cases hboth.1
    exact (List.isChain_map _).1 hkinds
  bounded := by
    rw [pieces_eq_map, List.isChain_map]
    exact h.borders.imp fun a b hab _ hliteral => (hab hliteral).2

/-! ## Stretches of regions -/

/-- What one region of a regular template adds to the stretches in front of it. -/
structure Fits (ss : List Stretch) (s : Stretch) : Prop where
  nonempty : s.2 ≠ []
  names : s.1 = .variable → ∀ c ∈ s.2, isIdentifierChar c = true
  borders : ∀ prev ∈ ss.head?, Borders prev s

theorem Tidy.cons {s : Stretch} {ss : List Stretch} (h : Tidy ss) (hs : Fits ss s) :
    Tidy (s :: ss) := by
  obtain ⟨kind, cs⟩ := s
  match kind with
  | .variable => exact .name hs.nonempty (hs.names rfl) h
  | .literal =>
    obtain ⟨front, c, rfl⟩ := (List.eq_nil_or_concat cs).resolve_left hs.nonempty
    rw [List.concat_eq_append]
    refine .plain front ?_ h
    match ss, hs.borders with
    | [], _ => trivial
    | prev :: ss, hborders =>
      obtain ⟨hkind, d, hd, hboundary⟩ := hborders prev (by simp) rfl
      obtain rfl : c = d := by simpa [Stretch.piece] using hd
      obtain ⟨kind, ds⟩ := prev
      obtain rfl : kind = .variable := hkind
      exact hboundary

theorem tidy_of_borders {ss : List Stretch} (hne : ∀ s ∈ ss, s.2 ≠ [])
    (hnames : ∀ s ∈ ss, s.1 = .variable → ∀ c ∈ s.2, isIdentifierChar c = true)
    (hborders : ss.reverse.IsChain Borders) : Tidy ss := by
  rw [List.isChain_reverse] at hborders
  induction ss with
  | nil => exact .nil
  | cons s ss ih =>
      rw [List.forall_mem_cons] at hne hnames
      rw [List.isChain_cons] at hborders
      exact (ih hne.2 hnames.2 hborders.2).cons ⟨hne.1, hnames.1, hborders.1⟩

/-- The stretch that a region cuts out of a text. -/
def stretchOf (text : List Char) (r : Region) : Stretch :=
  (r.kind, (slice text.toArray r.start r.stop).reverse)

/-- A region within a text is as long as the stretch it cuts out. -/
theorem slice_of_le {text : List Char} {a b : Nat} (hab : a ≤ b) (hb : b ≤ text.length) :
    slice text.toArray a b = (text.drop a).take (b - a) := by
  rw [slice, List.size_toArray, clipBound_of_le (hab.trans hb), clipBound_of_le hb]
  simp [List.extract_eq_take_drop]

/-- Regions that tile a text up to `n` are those of the stretches they cut out. -/
theorem regionsOf_stretches {text : List Char} {rs : List Region} {n : Nat}
    (htiles : Tiles 0 rs n) (hne : ∀ r ∈ rs, r.start < r.stop) (hn : n ≤ text.length) :
    regionsOf (rs.map (stretchOf text)).reverse = rs.reverse ∧
      ((rs.map (stretchOf text)).reverse.flatMap Prod.snd).reverse = text.take n := by
  induction rs using List.reverseRecOn generalizing n with
  | nil =>
      obtain rfl : n = 0 := by
        have : (0 : Int) = n := htiles
        omega
      exact ⟨rfl, rfl⟩
  | append_singleton rs r ih =>
      obtain ⟨hfront, hstop⟩ := tiles_concat.1 htiles
      have hlt := hne r (by simp)
      have hpos := hfront.le fun r' hr' => hne r' (by simp [hr'])
      obtain ⟨a, ha⟩ := Int.eq_ofNat_of_zero_le hpos
      have hab : a ≤ n := by omega
      rw [ha] at hfront
      obtain ⟨hregions, htext⟩ := ih hfront (fun r' hr' => hne r' (by simp [hr'])) (by omega)
      have hwidth : width (rs.map (stretchOf text)).reverse = a := by
        have := congrArg List.length htext
        rw [List.length_reverse, List.length_take] at this
        rw [width, this]
        omega
      have hslice : slice text.toArray r.start r.stop = (text.drop a).take (n - a) := by
        rw [ha, hstop]
        exact slice_of_le hab hn
      constructor
      · rw [List.map_append, List.map_singleton, List.reverse_append, List.reverse_append]
        simp only [List.reverse_singleton, List.singleton_append, regionsOf, hregions, hwidth]
        congr 1
        obtain ⟨kind, start, stop⟩ := r
        simp only [stretchOf, hslice, Region.mk.injEq, List.length_reverse, List.length_take,
          List.length_drop, true_and] at ha hstop ⊢
        omega
      · rw [List.map_append, List.map_singleton, List.reverse_append, List.flatMap_append,
          List.reverse_append, htext]
        simp only [List.reverse_singleton, List.flatMap_singleton, stretchOf, hslice,
          List.reverse_reverse]
        rw [← List.take_append_drop a (text.take n), List.take_take, Nat.min_eq_left hab,
          List.drop_take]

theorem exists_region {s : Stretch} {ss : List Stretch} (hs : s ∈ ss) :
    ∃ r ∈ regionsOf ss, r.stop = r.start + s.2.length := by
  induction ss with
  | nil => cases hs
  | cons s' ss ih =>
      rcases List.mem_cons.1 hs with rfl | hs
      · exact ⟨_, List.mem_cons_self, rfl⟩
      · obtain ⟨r, hr, hlen⟩ := ih hs
        exact ⟨r, List.mem_cons_of_mem _ hr, hlen⟩

theorem pieces_eq_stretches (t : Template) :
    t.pieces = t.regions.map fun r => (stretchOf t.text.toList r).piece := by
  simp [pieces, stretchOf, Stretch.piece]

/-- The stretches that the regions of a regular template cut out are tidy. -/
theorem Regular.canonical {t : Template} (h : t.Regular) : t.Canonical := by
  have hlen : t.text.length = t.text.toList.length := String.length_toList.symm
  have htiles := h.tiles
  rw [hlen] at htiles
  obtain ⟨hregions, htext⟩ := regionsOf_stretches htiles h.nonempty le_rfl
  refine ⟨(t.regions.map (stretchOf t.text.toList)).reverse, tidy_of_borders ?_ ?_ ?_, ?_⟩
  · intro s hs hnil
    obtain ⟨r, hr, hstop⟩ := exists_region hs
    rw [hregions, List.mem_reverse] at hr
    have hlt := h.nonempty r hr
    rw [hstop, hnil, List.length_nil] at hlt
    omega
  · intro s hs hkind c hc
    obtain ⟨r, hr, rfl⟩ := List.mem_map.1 (List.mem_reverse.1 hs)
    refine h.names (stretchOf t.text.toList r).piece.2 ?_ c (by simpa [Stretch.piece] using hc)
    rw [variableNames, pieces_eq_stretches, List.mem_filterMap]
    exact ⟨_, List.mem_map_of_mem hr, if_pos hkind⟩
  · rw [List.reverse_reverse, List.isChain_map,
      List.isChain_iff_forall_rel_of_append_cons_cons]
    intro a b front back hsplit hliteral
    have hapart := List.isChain_iff_forall_rel_of_append_cons_cons.1 h.apart hsplit
    have hbounded := h.bounded
    rw [pieces_eq_stretches, List.isChain_map] at hbounded
    have hborder := List.isChain_iff_forall_rel_of_append_cons_cons.1 hbounded hsplit
    have hvariable : a.kind = .variable := by
      cases hkind : a.kind
      · exact absurd ⟨hkind, hliteral⟩ hapart
      · rfl
    exact ⟨hvariable, hborder hvariable hliteral⟩
  · rw [List.take_length] at htext
    rw [ofStretches, htext, hregions, List.reverse_reverse, String.ofList_toList]

/-- Regular templates are those that a literal can be read as. -/
theorem canonical_iff_regular {t : Template} : t.Canonical ↔ t.Regular := by
  constructor
  · rintro ⟨ss, htidy, rfl⟩
    exact htidy.regular
  · exact Regular.canonical

/-- Printing and reading are inverse to each other on regular templates, and so on
whatever a literal is read as. -/
theorem parse_print_inverse :
    (∀ t : Template, t.Regular → parse t.print true = t) ∧
      ∀ (raw : String) (expand : Bool),
        parse (parse raw expand).print true = parse raw expand :=
  ⟨fun _ h => parse_print_of_canonical h.canonical,
    fun raw expand => parse_print_of_canonical (parse_canonical raw expand)⟩

/-- A literal that ends in `$` in front of two variables, and a line end behind them. -/
theorem parse_print_inverse_dollars :
    let t : Template := ⟨"5$_%\n", [⟨.literal, 0, 2⟩, ⟨.variable, 2, 3⟩, ⟨.variable, 3, 4⟩,
      ⟨.literal, 4, 5⟩]⟩
    t.Regular ∧ parse t.print true = t := by
  intro t
  have htidy : Tidy [(.literal, ['\n']), (.variable, ['%']), (.variable, ['_']),
      (.literal, ['$', '5'])] :=
    .plain [] rfl (.name (by simp) (by simp [isIdentifierChar])
      (.name (by simp) (by simp [isIdentifierChar]) (.plain ['$'] trivial .nil)))
  have hregular : t.Regular := htidy.regular
  exact ⟨hregular, parse_print_inverse.1 t hregular⟩

/-! ## Literals -/

/-- Without expansion, a scan only resolves escapes. -/
theorem scan_text (s : Scan) (cs : List Char) :
    (scan false s cs).text = (resolve cs).reverse ++ s.text := by
  have hpush (s : Scan) (c : Char) : (s.push c).text = c :: s.text := by
    unfold Scan.push
    split
    · rfl
    · rfl
    · split <;> rfl
  have hpushed (s : Scan) (c : Char) (rest : List Char) :
      (resolve rest).reverse ++ (s.push c).text = (c :: resolve rest).reverse ++ s.text := by
    rw [hpush, List.reverse_cons, List.append_assoc, List.singleton_append]
  fun_induction scan false s cs with
  | case1 s => rfl
  | case2 s => rfl
  | case3 s c rest ih => rw [ih, hpushed, resolve]
  | case4 s next rest h ih => simp at h
  | case5 s next rest h ih => rw [ih, hpushed, resolve_cons (c := '$') (by decide)]
  | case6 s c rest hend hmore hdollar ih =>
      have hc : c ≠ '\\' := by
        intro hc
        cases rest with
        | nil => exact hend hc rfl
        | cons d rest => exact hmore d rest hc rfl
      rw [ih, hpushed, resolve_cons hc]

theorem parse_text_of_plain (raw : String) :
    (parse raw false).text = String.ofList (resolve (stripQuotes raw.toList)) := by
  rw [parse]
  simp [scan_text]

theorem length_marked (ss : List Stretch) :
    (marked ss).length = width ss + ss.countP fun s => s.1 = .variable := by
  induction ss with
  | nil => rfl
  | cons s ss ih =>
      obtain ⟨kind, cs⟩ := s
      cases kind <;> simp [ih] <;> omega

/-- Without expansion, there is one literal at most. -/
theorem regions_of_plain (raw : String) :
    (parse raw false).regions = [] ∨
      ∃ stop, (parse raw false).regions = [⟨.literal, 0, stop⟩] := by
  obtain ⟨ss, htidy, hparse, hmarked⟩ := exists_stretches raw false
  have htext : ss.flatMap Prod.snd = marked ss := by
    have hsame := parse_text_of_plain raw
    rw [hparse, ← hmarked, ofStretches, String.ofList_inj] at hsame
    exact List.reverse_injective hsame
  have hcount : (ss.countP fun s => s.1 = .variable) = 0 := by
    have hlen := length_marked ss
    rw [← htext, width] at hlen
    omega
  have hnone : ∀ s ∈ ss, s.1 ≠ .variable := by simpa [List.countP_eq_zero] using hcount
  rw [hparse]
  cases htidy with
  | nil => exact .inl rfl
  | name _ _ _ => exact absurd rfl (hnone _ List.mem_cons_self)
  | @plain cs c ss hc hss =>
      cases ss with
      | nil => exact .inr ⟨_, rfl⟩
      | cons s ss =>
          have hkind := hnone s (by simp)
          obtain ⟨kind, ds⟩ := s
          cases kind
          · exact hc.elim
          · exact absurd rfl hkind

theorem join_pieces_ofStretches (ss : List Stretch) :
    String.join ((ofStretches ss).pieces.map Prod.snd) = (ofStretches ss).text := by
  have hcat : ss.reverse.flatMap (fun s => s.2.reverse) = (ss.flatMap Prod.snd).reverse := by
    rw [List.reverse_flatMap]
    rfl
  rw [pieces_eq_map, ofStretches, ← String.toList_inj, String.toList_join, List.flatMap_map,
    List.flatMap_map, String.toList_ofList, ← hcat]
  exact List.flatMap_congr fun s _ => by simp [Stretch.piece]

/-- Every literal is read as a regular template, whose pieces are its text; without
expansion it has one region at most. -/
theorem parse_regular (raw : String) (expand : Bool) :
    (parse raw expand).Regular ∧
      String.join ((parse raw expand).pieces.map Prod.snd) = (parse raw expand).text ∧
      ((parse raw false).regions = [] ∨
        ∃ stop, (parse raw false).regions = [⟨.literal, 0, stop⟩]) := by
  obtain ⟨ss, htidy, hparse, -⟩ := exists_stretches raw expand
  refine ⟨?_, ?_, regions_of_plain raw⟩
  · rw [hparse]
    exact htidy.regular
  · rw [hparse]
    exact join_pieces_ofStretches ss

/-- The pieces of a template, each variable behind a `$`. -/
def withDollars (t : Template) : String :=
  String.join (t.pieces.map fun piece =>
    match piece.1 with
    | .literal => piece.2
    | .variable => "$" ++ piece.2)

theorem withDollars_ofStretches (ss : List Stretch) :
    (ofStretches ss).withDollars = String.ofList (marked ss).reverse := by
  rw [withDollars, pieces_eq_map, ← String.toList_inj, String.toList_join, List.flatMap_map,
    List.flatMap_map, String.toList_ofList, marked, List.reverse_flatMap]
  refine List.flatMap_congr fun s _ => ?_
  obtain ⟨kind, cs⟩ := s
  cases kind <;> simp [Stretch.piece]

/-- Expansion takes away the `$` of variables and nothing else: marked again, what is
read is the body of the literal with its escapes resolved. -/
theorem expansion_removes_dollars (raw : String) :
    (parse raw true).withDollars = (parse raw false).text ∧
      (parse raw false).text = String.ofList (resolve (stripQuotes raw.toList)) := by
  obtain ⟨ss, -, hparse, hmarked⟩ := exists_stretches raw true
  refine ⟨?_, parse_text_of_plain raw⟩
  rw [hparse, withDollars_ofStretches, hmarked, parse_text_of_plain]

end Template

end TextShell
