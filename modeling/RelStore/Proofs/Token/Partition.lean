import RelStore.Proofs.Except
import RelStore.Proofs.Token.Head

/-!
A text that is scanned falls into blanks and the spellings of its tokens, in this order and with nothing
left over, and there is one such partition. Where scanning stops, the text before falls into blanks and
spellings too, and no token can begin there.
-/

namespace RelStore.Token
set_option autoImplicit false

open Text

/-- The text falls into the spellings of the tokens and the blanks before, between and after them. No
spelling goes on into what follows it. -/
inductive Partition : List Token → List Char → Prop where
  | nil {gap : List Char} (blanks : ∀ c ∈ gap, isBlank c = true) : Partition [] gap
  | cons {t : Token} {rest : List Token} {gap spelling after : List Char}
      (blanks : ∀ c ∈ gap, isBlank c = true) (spells : Spelling t spelling)
      (ended : Ended t spelling after) (tail : Partition rest after) :
    Partition (t :: rest) (gap ++ (spelling ++ after))

variable {t : Token} {tokens : List Token} {c : Char} {rest after text : List Char}

theorem scanList_blanks {gap : List Char} (h : ∀ c ∈ gap, isBlank c = true) (text : List Char) :
    scanList (gap ++ text) = scanList text := by
  induction gap with
  | nil => rfl
  | cons c gap ih =>
    rw [List.cons_append, scanList, if_pos (h c List.mem_cons_self)]
    exact ih fun d hd => h d (List.mem_cons_of_mem c hd)

theorem scanList_of_head (hc : isBlank c = false) (h : head c rest = .ok (t, after)) :
    scanList (c :: rest) = (t :: ·) <$> scanList after := by
  rw [scanList, if_neg (Bool.eq_false_iff.1 hc)]
  split
  · rename_i t' after' h'
    cases h.symm.trans h'
    rfl
  · rename_i fault h'
    cases h.symm.trans h'

theorem Partition.blanks_append {gap : List Char} (h : Partition tokens text)
    (hgap : ∀ c ∈ gap, isBlank c = true) : Partition tokens (gap ++ text) := by
  have hblanks : ∀ {gap' : List Char}, (∀ c ∈ gap', isBlank c = true) →
      ∀ c ∈ gap ++ gap', isBlank c = true := by
    intro gap' hgap' c hc
    rcases List.mem_append.1 hc with hc | hc
    · exact hgap c hc
    · exact hgap' c hc
  cases h with
  | nil blanks => exact .nil (hblanks blanks)
  | cons blanks spells ended tail =>
    rw [← List.append_assoc]
    exact .cons (hblanks blanks) spells ended tail

theorem Partition.spelled {spelling : List Char} (spells : Spelling t spelling)
    (ended : Ended t spelling after) (h : Partition tokens after) :
    Partition (t :: tokens) (spelling ++ after) := by
  have hnone : ∀ c ∈ ([] : List Char), isBlank c = true := nofun
  exact .cons hnone spells ended h

theorem Partition.scanList_eq (h : Partition tokens text) : scanList text = .ok tokens := by
  induction h with
  | @nil gap blanks =>
    have hscan := scanList_blanks blanks []
    rw [List.append_nil] at hscan
    rw [hscan, scanList]
  | @cons t rest gap spelling after blanks spells ended tail ih =>
    obtain ⟨c, text, rfl⟩ := List.exists_cons_of_ne_nil spells.ne_nil
    have hsplit : c :: text ++ after = c :: (text ++ after) := List.cons_append
    obtain ⟨hc, hhead⟩ := spells.head_eq ended hsplit
    rw [scanList_blanks blanks, hsplit, scanList_of_head hc hhead, ih]
    rfl

theorem partition_of_scanList (h : scanList text = .ok tokens) : Partition tokens text := by
  fun_induction scanList text generalizing tokens with
  | case1 =>
    cases h
    exact .nil nofun
  | case2 c rest hc ih =>
    exact (ih h).blanks_append (List.forall_mem_singleton.2 hc)
  | case3 c rest hc t after hhead ih =>
    cases hscan : scanList after with
    | error stop =>
      rw [hscan] at h
      cases h
    | ok tokens' =>
      rw [hscan] at h
      cases h
      obtain ⟨s, hsplit, hs, he⟩ := exists_spelling_of_head hhead
      rw [hsplit]
      exact .spelled hs he (ih hscan)
  | case4 => cases h

/-- Where scanning stops there is no blank, and the text before falls into spelled tokens. -/
theorem exists_partition_of_stop {stop : Stop} (h : scanList text = .error stop) :
    ∃ before tokens, text = before ++ stop.c :: stop.rest ∧ Partition tokens before ∧
      isBlank stop.c = false ∧ head stop.c stop.rest = .error stop.fault := by
  fun_induction scanList text with
  | case1 => cases h
  | case2 c rest hc ih =>
    obtain ⟨before, tokens, rfl, hbefore, hstop⟩ := ih h
    have hblank := hbefore.blanks_append (List.forall_mem_singleton.2 hc)
    exact ⟨c :: before, tokens, rfl, hblank, hstop⟩
  | case3 c rest hc t after hhead ih =>
    cases hscan : scanList after with
    | ok tokens =>
      rw [hscan] at h
      cases h
    | error stop' =>
      rw [hscan] at h
      cases h
      obtain ⟨before, tokens, rfl, hbefore, hstop⟩ := ih hscan
      obtain ⟨s, hsplit, hs, he⟩ := exists_spelling_of_head hhead
      refine ⟨s ++ before, t :: tokens, ?_, .spelled hs (he.of_append hs) hbefore, hstop⟩
      rw [hsplit, List.append_assoc]
  | case4 c rest hc fault hhead =>
    cases h
    exact ⟨[], [], rfl, .nil nofun, Bool.eq_false_iff.2 hc, hhead⟩

theorem scanList_eq_ok_iff : scanList text = .ok tokens ↔ Partition tokens text :=
  ⟨partition_of_scanList, Partition.scanList_eq⟩

theorem scan_eq_ok_iff {text : String} : scan text = .ok tokens ↔ Partition tokens text.toList := by
  unfold scan
  rw [mapError_eq_ok, scanList_eq_ok_iff]

theorem scan_eq_error_iff {text : String} {fault : ScanFault} :
    scan text = .error fault ↔
      ∃ stop, scanList text.toList = .error stop ∧ stop.locate text.length = fault := by
  unfold scan
  cases scanList text.toList with
  | ok tokens =>
    constructor
    · intro h
      cases h
    · rintro ⟨stop, h, -⟩
      cases h
  | error stop =>
    constructor
    · intro h
      exact ⟨stop, rfl, Except.error.inj h⟩
    · rintro ⟨_, ⟨⟩, rfl⟩
      rfl

theorem Stop.locate_eq {stop : Stop} {length position : Nat}
    (h : length - (stop.rest.length + 1) = position) :
    stop.locate length = match stop.fault with
      | .strayCharacter => .unexpectedCharacter stop.c position
      | .openQuote => .unterminatedString position := by
  subst h
  rfl

/-- A fault is located at the character at which scanning stops; what is before it is scanned. -/
theorem exists_stop_of_scan {text : String} {fault : ScanFault} (h : scan text = .error fault) :
    ∃ (before : List Char) (stop : Stop), text.toList = before ++ stop.c :: stop.rest ∧
      (∃ tokens, scan (String.ofList before) = .ok tokens) ∧ isBlank stop.c = false ∧
      head stop.c stop.rest = .error stop.fault ∧
      fault = match stop.fault with
        | .strayCharacter => .unexpectedCharacter stop.c before.length
        | .openQuote => .unterminatedString before.length := by
  obtain ⟨stop, hstop, rfl⟩ := scan_eq_error_iff.1 h
  obtain ⟨before, tokens, htext, hbefore, hblank, hhead⟩ := exists_partition_of_stop hstop
  have hscanned : scan (String.ofList before) = .ok tokens := by
    rw [scan_eq_ok_iff, String.toList_ofList]
    exact hbefore
  have hposition : text.length - (stop.rest.length + 1) = before.length := by
    rw [← String.length_toList, htext, List.length_append, List.length_cons]
    omega
  exact ⟨before, stop, htext, ⟨tokens, hscanned⟩, hblank, hhead, Stop.locate_eq hposition⟩

/-- A text is scanned as those tokens into whose spellings and blanks it falls, with nothing left over
and no word or number that could be read on. An unexpected character stands at its position, what is
before it is scanned, and no token is spelled from it on. A string that is not terminated begins at its
position with a quote that occurs in the rest in doubled pairs alone, and what is before it is
scanned. -/
theorem scan_partitions (text : String) :
    (∀ tokens, scan text = .ok tokens ↔ Partition tokens text.toList) ∧
    (∀ c position, scan text = .error (.unexpectedCharacter c position) →
      ∃ before rest, text.toList = before ++ c :: rest ∧ before.length = position ∧
        (∃ tokens, scan (String.ofList before) = .ok tokens) ∧
        isBlank c = false ∧ ∀ t s, Spelling t s → ¬ s <+: c :: rest) ∧
    ∀ position, scan text = .error (.unterminatedString position) →
      ∃ before quote content, text.toList = before ++ quote :: doubled quote content ∧
        before.length = position ∧ (∃ tokens, scan (String.ofList before) = .ok tokens) ∧
        isQuote quote = true := by
  refine ⟨fun tokens => scan_eq_ok_iff, ?_, ?_⟩
  · intro c position h
    obtain ⟨before, ⟨fault, c', rest⟩, htext, hbefore, hblank, hhead, he⟩ := exists_stop_of_scan h
    cases fault with
    | strayCharacter =>
      cases he
      exact ⟨before, rest, htext, rfl, hbefore, hblank,
        fun t s hs => hs.not_isPrefix_of_strayCharacter hhead⟩
    | openQuote => cases he
  · intro position h
    obtain ⟨before, ⟨fault, quote, rest⟩, htext, hbefore, -, hhead, he⟩ := exists_stop_of_scan h
    cases fault with
    | strayCharacter => cases he
    | openQuote =>
      cases he
      obtain ⟨hquote, content, hrest⟩ := exists_doubled_of_openQuote hhead
      have hrest' : rest = doubled quote content := hrest
      subst hrest'
      exact ⟨before, quote, content, htext, rfl, hbefore, hquote⟩

/-- A text with all kinds of tokens, a text with a character that begins none, and a quoted text that is
not closed. -/
theorem scan_partitions_of_texts :
    Partition [.word "a", .symbol .dot, .number "-1.5", .quoted "it's"]
      "a.-1.5 'it''s'".toList ∧
    (∃ before rest, "a <1".toList = before ++ '<' :: rest ∧ before.length = 2 ∧
      ∀ t s, Spelling t s → ¬ s <+: '<' :: rest) ∧
    ∃ before quote content, "a 'it''s".toList = before ++ quote :: doubled quote content ∧
      before.length = 2 ∧ isQuote quote = true := by
  have htokens : scan "a.-1.5 'it''s'" =
      .ok [.word "a", .symbol .dot, .number "-1.5", .quoted "it's"] := by decide +kernel
  have hstray : scan "a <1" = .error (.unexpectedCharacter '<' 2) := by decide +kernel
  have hopen : scan "a 'it''s" = .error (.unterminatedString 2) := by decide +kernel
  obtain ⟨before, rest, htext, hlength, -, -, hnone⟩ := (scan_partitions _).2.1 _ _ hstray
  obtain ⟨before', quote, content, htext', hlength', -, hquote⟩ := (scan_partitions _).2.2 _ hopen
  exact ⟨((scan_partitions _).1 _).1 htokens, ⟨before, rest, htext, hlength, hnone⟩,
    before', quote, content, htext', hlength', hquote⟩

end RelStore.Token
