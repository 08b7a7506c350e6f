import RelStore.Proofs.Token.Layout
import RelStore.Statement.Read

/-!
Texts with other blanks in them. What comes after a blank has no part in the tokens before it, so of two
texts with a blank between them each is scanned on its own, but for a quote that the first leaves open.
With other blanks in the same places a text has the same tokens, except for the blanks in quoted texts.
-/

namespace RelStore.Token
set_option autoImplicit false

open Text

variable {t : Token} {tokens : List Token} {c g : Char}
  {s rest after a b u u' text text' text'' gap gap' : List Char} {stop : Stop}

theorem isPrefix_of_not_mem {more : List Char} (h : more <+: after ++ g :: b) (hg : g ∉ more) :
    more <+: after := by
  rcases List.prefix_or_prefix_of_prefix h (List.prefix_append after (g :: b)) with hmore | hafter
  · exact hmore
  · obtain ⟨left, rfl⟩ := hafter
    cases left with
    | nil => simp
    | cons d left =>
      obtain ⟨rfl, -⟩ := List.cons_prefix_cons.1 ((List.prefix_append_right_inj after).1 h)
      exact absurd (List.mem_append_right after List.mem_cons_self) hg

section Blank

variable (hg : isBlank g = true)
include hg

theorem isDigit_of_isBlank : g.isDigit = false := by
  rw [Bool.eq_false_iff]
  intro hd
  cases (isWordPart_of_isDigit hd).symm.trans (isWordPart_of_isBlank hg)

theorem isQuote_of_isBlank : isQuote g = false := by
  rw [Bool.eq_false_iff]
  intro hq
  cases (isBlank_of_isQuote hq).symm.trans hg

theorem IsWord.not_mem_of_isBlank (h : IsWord s) : g ∉ s := by
  intro hmem
  cases (h.isWordPart_of_mem g hmem).symm.trans (isWordPart_of_isBlank hg)

theorem IsNumber.not_mem_of_isBlank (h : IsNumber s) : g ∉ s := by
  intro hmem
  rcases h.isDigit_of_mem g hmem with hd | rfl | rfl
  · cases hd.symm.trans (isDigit_of_isBlank hg)
  · cases hg
  · cases hg

/-- A token that has ended before a blank is not gone on with behind it. -/
theorem Ended.append_blank (hs : Spelling t s) (h : Ended t s after) :
    Ended t s (after ++ g :: b) := by
  cases hs with
  | symbol => trivial
  | word =>
    intro more hmore hw
    have hnot := hw.not_mem_of_isBlank hg
    exact h more (isPrefix_of_not_mem hmore fun hm => hnot (List.mem_append_right _ hm)) hw
  | number =>
    intro more hmore hn
    have hnot := hn.not_mem_of_isBlank hg
    exact h more (isPrefix_of_not_mem hmore fun hm => hnot (List.mem_append_right _ hm)) hn
  | quoted hq =>
    cases after with
    | nil =>
      intro he
      cases Option.some.inj he
      cases hq.symm.trans (isQuote_of_isBlank hg)
    | cons => exact h

theorem head_append_of_ok (h : head c rest = .ok (t, after)) (b : List Char) :
    head c (rest ++ g :: b) = .ok (t, after ++ g :: b) := by
  obtain ⟨s, hsplit, hs, he⟩ := exists_spelling_of_head h
  have hsplit' : s ++ (after ++ g :: b) = c :: (rest ++ g :: b) := by
    rw [← List.append_assoc, ← hsplit, List.cons_append]
  exact (hs.head_eq (he.append_blank hg hs) hsplit').2

theorem startsNumber_append (c : Char) (rest b : List Char) :
    startsNumber c (rest ++ g :: b) = startsNumber c rest := by
  cases rest with
  | nil =>
    unfold startsNumber
    rw [List.nil_append, List.head?_cons, List.head?_nil, Option.any_some, Option.any_none,
      isDigit_of_isBlank hg]
  | cons => rfl

theorem head_append_of_strayCharacter (h : head c rest = .error .strayCharacter) (b : List Char) :
    head c (rest ++ g :: b) = .error .strayCharacter := by
  unfold head at h ⊢
  split at h
  · cases h
  split at h
  · split at h
    · cases h
    · cases h
  rename_i hquote
  rw [if_neg hquote, startsNumber_append hg]
  split at h
  · cases h
  split at h
  · cases h
  rename_i hnumber hword
  rw [if_neg hnumber, if_neg hword]

end Blank

section Scan

theorem scanList_of_head_error {fault : HeadFault} (hc : isBlank c = false)
    (h : head c rest = .error fault) : scanList (c :: rest) = .error ⟨fault, c, rest⟩ := by
  rw [scanList, if_neg (Bool.eq_false_iff.1 hc)]
  split
  · rename_i h'
    cases h.symm.trans h'
  · rename_i h'
    cases h.symm.trans h'
    rfl

/-- Behind a text that is scanned and a blank, scanning goes on as from a beginning. -/
theorem scanList_append_of_ok (h : scanList a = .ok tokens) (hg : isBlank g = true)
    (b : List Char) : scanList (a ++ g :: b) = (tokens ++ ·) <$> scanList b := by
  have hpartition := partition_of_scanList h
  clear h
  induction hpartition with
  | @nil gap blanks =>
    rw [scanList_blanks blanks, scanList, if_pos hg]
    exact (id_map (scanList b)).symm
  | @cons t tokens gap spelling after blanks spells ended tail ih =>
    obtain ⟨c, spelling, rfl⟩ := List.exists_cons_of_ne_nil spells.ne_nil
    have hsplit : c :: spelling ++ (after ++ g :: b) = c :: (spelling ++ (after ++ g :: b)) :=
      List.cons_append
    obtain ⟨hc, hhead⟩ := spells.head_eq (ended.append_blank hg spells) hsplit
    rw [List.append_assoc, List.append_assoc, scanList_blanks blanks, hsplit,
      scanList_of_head hc hhead, ih]
    cases scanList b <;> rfl

/-- Behind a text that is not scanned and a blank, scanning goes on where the text could not be. -/
theorem exists_scanList_append_of_error (h : scanList a = .error stop) :
    ∃ tokens, ∀ g b, isBlank g = true →
      scanList (a ++ g :: b) = (tokens ++ ·) <$> scanList (stop.c :: (stop.rest ++ g :: b)) := by
  fun_induction scanList a with
  | case1 => cases h
  | case2 c rest hc ih =>
    obtain ⟨tokens, htokens⟩ := ih h
    refine ⟨tokens, fun g b hg => ?_⟩
    rw [List.cons_append, scanList, if_pos hc]
    exact htokens g b hg
  | case3 c rest hc t after hhead ih =>
    cases hscan : scanList after with
    | ok tokens =>
      rw [hscan] at h
      cases h
    | error stop' =>
      rw [hscan] at h
      cases h
      -- a token that has been read is read again, whatever is put behind the text
      obtain ⟨tokens, htokens⟩ := ih hscan
      refine ⟨t :: tokens, fun g b hg => ?_⟩
      rw [List.cons_append, scanList_of_head (Bool.eq_false_iff.2 hc) (head_append_of_ok hg hhead b),
        htokens g b hg]
      cases scanList (stop.c :: (stop.rest ++ g :: b)) <;> rfl
  | case4 c rest hc fault hhead =>
    cases h
    exact ⟨[], fun g b hg => (id_map _).symm⟩

/-- A character that begins no token begins none either with something behind it. -/
theorem scanList_append_of_strayCharacter (h : scanList a = .error ⟨.strayCharacter, c, rest⟩)
    (hg : isBlank g = true) (b : List Char) :
    scanList (a ++ g :: b) = .error ⟨.strayCharacter, c, rest ++ g :: b⟩ := by
  obtain ⟨tokens, htokens⟩ := exists_scanList_append_of_error h
  obtain ⟨-, -, -, -, hblank, hhead⟩ := exists_partition_of_stop h
  rw [htokens g b hg, scanList_of_head_error hblank (head_append_of_strayCharacter hg hhead b)]
  rfl

/-- Behind a quote that is left open scanning goes on in the quoted text. -/
theorem exists_scanList_append_of_openQuote (h : scanList a = .error ⟨.openQuote, c, rest⟩) :
    isQuote c = true ∧ ∃ tokens content, ∀ g b, isBlank g = true →
      scanList (a ++ g :: b) = (tokens ++ ·) <$> scanList (c :: (doubled c content ++ g :: b)) := by
  obtain ⟨tokens, htokens⟩ := exists_scanList_append_of_error h
  obtain ⟨-, -, -, -, -, hhead⟩ := exists_partition_of_stop h
  obtain ⟨hq, content, hrest⟩ := exists_doubled_of_openQuote hhead
  dsimp only at hrest htokens
  rw [hrest] at htokens
  exact ⟨hq, tokens, content, htokens⟩

end Scan

section Quotes

variable {quote : Char}

theorem quotedRest_doubled_append (quote : Char) (content after : List Char) :
    quotedRest quote (doubled quote content ++ after) =
      (quotedRest quote after).map fun (more, left) => (content ++ more, left) := by
  induction content with
  | nil =>
    change quotedRest quote after = _
    cases quotedRest quote after <;> rfl
  | cons c content ih =>
    by_cases hc : c = quote
    · subst hc
      rw [doubled_cons_self, List.cons_append, List.cons_append, quotedRest, if_pos rfl, if_pos rfl,
        ih, Option.map_map]
      rfl
    · rw [doubled_cons_of_ne hc, List.cons_append, quotedRest.eq_def]
      simp only [if_neg hc]
      rw [ih, Option.map_map]
      rfl

theorem doubled_of_blanks (hq : isQuote quote = true) (hgap : ∀ c ∈ gap, isBlank c = true) :
    doubled quote gap = gap := by
  induction gap with
  | nil => rfl
  | cons c gap ih =>
    have hc : c ≠ quote := by
      rintro rfl
      cases (isBlank_of_isQuote hq).symm.trans (hgap c List.mem_cons_self)
    rw [doubled_cons_of_ne hc, ih fun d hd => hgap d (List.mem_cons_of_mem c hd)]

theorem doubled_append (quote : Char) (content more : List Char) :
    doubled quote (content ++ more) = doubled quote content ++ doubled quote more :=
  List.flatMap_append

theorem head_of_isQuote (hq : isQuote quote = true) (rest : List Char) :
    head quote rest = match quotedRest quote rest with
      | some (content, after) => .ok (.quoted (String.ofList content), after)
      | none => .error .openQuote := by
  unfold head
  rw [ofChar?_of_isQuote hq]
  exact if_pos hq

/-- Blanks behind an open quote are part of the quoted text. -/
theorem quotedRest_blanks (hq : isQuote quote = true) (hgap : ∀ c ∈ gap, isBlank c = true)
    (content b : List Char) :
    quotedRest quote (doubled quote content ++ (gap ++ b)) =
      (quotedRest quote b).map fun (more, left) => (content ++ gap ++ more, left) := by
  have hdoubled : doubled quote content ++ (gap ++ b) = doubled quote (content ++ gap) ++ b := by
    rw [doubled_append, doubled_of_blanks hq hgap, List.append_assoc]
  rw [hdoubled, quotedRest_doubled_append]

theorem scanList_of_closed (hq : isQuote quote = true) (hgap : ∀ c ∈ gap, isBlank c = true)
    (content : List Char) {more : List Char} (h : quotedRest quote b = some (more, after)) :
    scanList (quote :: (doubled quote content ++ (gap ++ b))) =
      (.quoted (String.ofList (content ++ gap ++ more)) :: ·) <$> scanList after := by
  apply scanList_of_head (isBlank_of_isQuote hq)
  rw [head_of_isQuote hq, quotedRest_blanks hq hgap, h]
  rfl

theorem exists_scanList_of_open (hq : isQuote quote = true) (hgap : ∀ c ∈ gap, isBlank c = true)
    (content : List Char) (h : quotedRest quote b = none) :
    ∃ stop, scanList (quote :: (doubled quote content ++ (gap ++ b))) = .error stop := by
  have hhead : head quote (doubled quote content ++ (gap ++ b)) = .error .openQuote := by
    rw [head_of_isQuote hq, quotedRest_blanks hq hgap, h]
    rfl
  exact ⟨_, scanList_of_head_error (isBlank_of_isQuote hq) hhead⟩

end Quotes

/-- None of the quoted texts goes over a line break. -/
def Unbroken (tokens : List Token) : Prop :=
  ∀ content, .quoted content ∈ tokens → '\n' ∉ content.toList

/-- The second text has the tokens of the first, if no quoted text of it goes over a line break, and has
none if the first has none. -/
structure Respaced (text text' : List Char) : Prop where
  scans : ∀ tokens, scanList text = .ok tokens → Unbroken tokens → scanList text' = .ok tokens
  stops : ∀ stop, scanList text = .error stop → ∃ stop', scanList text' = .error stop'

namespace Respaced

theorem of_scanList_eq (h : scanList text' = scanList text) : Respaced text text' where
  scans := fun _ hscan _ => h.trans hscan
  stops := fun stop hscan => ⟨stop, h.trans hscan⟩

theorem trans (h : Respaced text text') (h' : Respaced text' text'') : Respaced text text'' where
  scans := fun tokens hscan hunbroken => h'.scans tokens (h.scans tokens hscan hunbroken) hunbroken
  stops := by
    intro stop hscan
    obtain ⟨stop', hscan'⟩ := h.stops stop hscan
    exact h'.stops stop' hscan'

theorem of_errors {stop' : Stop} (h : scanList text = .error stop)
    (h' : scanList text' = .error stop') : Respaced text text' where
  scans := by
    intro tokens hscan
    cases h.symm.trans hscan
  stops := fun _ _ => ⟨stop', h'⟩

/-- Tokens that are in front of both texts make no difference. -/
theorem of_map (h : Respaced u u') (hscan : scanList text = (tokens ++ ·) <$> scanList u)
    (hscan' : scanList text' = (tokens ++ ·) <$> scanList u') : Respaced text text' := by
  cases hu : scanList u with
  | error stop =>
    obtain ⟨stop', hu'⟩ := h.stops stop hu
    rw [hu] at hscan
    rw [hu'] at hscan'
    exact of_errors hscan hscan'
  | ok more =>
    rw [hu] at hscan
    refine ⟨fun all hall hunbroken => ?_, fun stop hstop => ?_⟩
    · cases hscan.symm.trans hall
      have hmore : Unbroken more := fun content hc => hunbroken content (List.mem_append_right _ hc)
      rw [hscan', h.scans more hu hmore]
      rfl
    · cases hscan.symm.trans hstop

section Gaps

variable (hgap : ∀ c ∈ gap, isBlank c = true)
include hgap

/-- An open quote in front of the blanks: they are part of the quoted text, if it is closed at all. -/
theorem of_open {quote : Char} (hq : isQuote quote = true) (hbreak : '\n' ∈ gap)
    (hgap' : ∀ c ∈ gap', isBlank c = true) (content b : List Char) :
    Respaced (quote :: (doubled quote content ++ (gap ++ b)))
      (quote :: (doubled quote content ++ (gap' ++ b))) := by
  cases hb : quotedRest quote b with
  | none =>
    obtain ⟨stop, hscan⟩ := exists_scanList_of_open hq hgap content hb
    obtain ⟨stop', hscan'⟩ := exists_scanList_of_open hq hgap' content hb
    exact of_errors hscan hscan'
  | some closed =>
    obtain ⟨more, after⟩ := closed
    have hscan := scanList_of_closed hq hgap content hb
    have hscan' := scanList_of_closed hq hgap' content hb
    cases hafter : scanList after with
    | error stop =>
      rw [hafter] at hscan hscan'
      exact of_errors hscan hscan'
    | ok tokens =>
      rw [hafter] at hscan
      refine ⟨fun all hall hunbroken => ?_, fun stop hstop => ?_⟩
      · -- the gap is now in a quoted text, and with it the break
        cases hscan.symm.trans hall
        have hnot := hunbroken _ List.mem_cons_self
        rw [String.toList_ofList] at hnot
        exact absurd (List.mem_append_left _ (List.mem_append_right _ hbreak)) hnot
      · cases hscan.symm.trans hstop

/-- Blanks among which there is a line break may be exchanged for others. -/
theorem exchange (hbreak : '\n' ∈ gap) (hgap' : ∀ c ∈ gap', isBlank c = true) (hne : gap' ≠ [])
    (a b : List Char) : Respaced (a ++ (gap ++ b)) (a ++ (gap' ++ b)) := by
  obtain ⟨g, gs, rfl⟩ := List.exists_cons_of_ne_nil (List.ne_nil_of_mem hbreak)
  obtain ⟨g', gs', rfl⟩ := List.exists_cons_of_ne_nil hne
  have hg := hgap g List.mem_cons_self
  have hg' := hgap' g' List.mem_cons_self
  cases ha : scanList a with
  | ok tokens =>
    apply of_scanList_eq
    rw [List.cons_append, List.cons_append, scanList_append_of_ok ha hg,
      scanList_append_of_ok ha hg', scanList_blanks fun c hc => hgap c (List.mem_cons_of_mem g hc),
      scanList_blanks fun c hc => hgap' c (List.mem_cons_of_mem g' hc)]
  | error stop =>
    obtain ⟨fault, c, rest⟩ := stop
    cases fault with
    | strayCharacter =>
      exact of_errors (scanList_append_of_strayCharacter ha hg (gs ++ b))
        (scanList_append_of_strayCharacter ha hg' (gs' ++ b))
    | openQuote =>
      obtain ⟨hq, tokens, content, hscan⟩ := exists_scanList_append_of_openQuote ha
      exact of_map (of_open hgap hq hbreak hgap' content b) (hscan g (gs ++ b) hg)
        (hscan g' (gs' ++ b) hg')

/-- Blanks at the end may be left out. -/
theorem dropEnd (a : List Char) : Respaced (a ++ gap) a := by
  cases gap with
  | nil =>
    rw [List.append_nil]
    exact of_scanList_eq rfl
  | cons g gs =>
    have hg := hgap g List.mem_cons_self
    have hgs : ∀ c ∈ gs, isBlank c = true := fun c hc => hgap c (List.mem_cons_of_mem g hc)
    cases ha : scanList a with
    | ok tokens =>
      have hnone : scanList gs = .ok [] := (Partition.nil hgs).scanList_eq
      apply of_scanList_eq
      rw [scanList_append_of_ok ha hg, hnone, ha]
      exact congrArg Except.ok (List.append_nil tokens).symm
    | error stop =>
      obtain ⟨fault, c, rest⟩ := stop
      cases fault with
      | strayCharacter => exact of_errors (scanList_append_of_strayCharacter ha hg gs) ha
      | openQuote =>
        obtain ⟨hq, tokens, content, hscan⟩ := exists_scanList_append_of_openQuote ha
        have hnone : quotedRest c [] = none := rfl
        obtain ⟨stop', hopen⟩ := exists_scanList_of_open hq hgap content hnone
        rw [List.append_nil] at hopen
        have hstop := hscan g gs hg
        rw [hopen] at hstop
        exact of_errors hstop ha

end Gaps

/-- With the same tokens a text is read as the same statement. -/
theorem parse_eq_ok_iff {text text' : String} (h : Respaced text.toList text'.toList)
    (hunbroken : ∀ tokens, scan text = .ok tokens → Unbroken tokens) (statement : Statement) :
    Statement.parse text' = .ok statement ↔ Statement.parse text = .ok statement := by
  unfold Statement.parse
  cases hscan : scanList text.toList with
  | ok tokens =>
    have htext : scan text = .ok tokens := scan_eq_ok_iff.2 (partition_of_scanList hscan)
    have htext' := h.scans tokens hscan (hunbroken tokens htext)
    rw [htext, scan_eq_ok_iff.2 (partition_of_scanList htext')]
  | error stop =>
    obtain ⟨stop', hscan'⟩ := h.stops stop hscan
    rw [scan_eq_error_iff.2 ⟨stop, hscan, rfl⟩, scan_eq_error_iff.2 ⟨stop', hscan', rfl⟩]
    exact ⟨nofun, nofun⟩

end Respaced

end RelStore.Token
