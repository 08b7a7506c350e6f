import Mathlib.Data.List.DropRight
import RelStore.Proofs.Retrieval
import RelStore.Proofs.Token.Blanks
import RelStore.Shell.Program

/-!
A statement that is typed on several lines. The session takes the blanks off the ends of each line and
puts the lines together with one blank between any two, so it carries out another text than the one that
was typed. The two are the same statement, unless a quoted text goes over a line break.
-/

namespace RelStore
set_option autoImplicit false

namespace Text

section Trimmed

variable {s : List Char}

/-- What is taken off the ends of a text is blank. -/
theorem exists_trimmed_append (s : List Char) :
    ∃ front back, s = front ++ (trimmed s ++ back) ∧ (∀ c ∈ front, isBlank c = true) ∧
      ∀ c ∈ back, isBlank c = true := by
  refine ⟨s.takeWhile isBlank, (s.dropWhile isBlank).rtakeWhile isBlank, ?_,
    fun c hc => List.mem_takeWhile_imp hc, fun c hc => List.mem_rtakeWhile_imp hc⟩
  have hback : trimmed s ++ (s.dropWhile isBlank).rtakeWhile isBlank = s.dropWhile isBlank :=
    List.rdropWhile_append_rtakeWhile
  rw [hback, List.takeWhile_append_dropWhile]

theorem isBlank_of_mem_head?_trimmed (s : List Char) :
    ∀ c ∈ (trimmed s).head?, isBlank c = false := by
  intro c hc
  obtain ⟨rest, hs⟩ := List.head?_eq_some_iff.1 hc
  obtain ⟨back, hprefix⟩ : trimmed s <+: s.dropWhile isBlank := List.rdropWhile_prefix _ _
  have hhead := List.head?_dropWhile_not isBlank s
  rw [← hprefix, hs] at hhead
  exact hhead

theorem trimmed_eq_self (hhead : ∀ c ∈ s.head?, isBlank c = false)
    (hlast : ∀ c ∈ s.getLast?, isBlank c = false) : trimmed s = s := by
  have hfront : s.dropWhile isBlank = s := by
    cases s with
    | nil => rfl
    | cons c s => exact List.dropWhile_cons_of_neg (Bool.eq_false_iff.1 (hhead c rfl))
  have hback : s.rdropWhile isBlank = s := by
    rw [List.rdropWhile_eq_self_iff]
    intro hs
    exact Bool.eq_false_iff.1 (hlast _ (List.getLast?_eq_some_getLast hs))
  calc trimmed s = (s.dropWhile isBlank).rdropWhile isBlank := rfl
    _ = s := by rw [hfront, hback]

end Trimmed

end Text

open Text Token

namespace Shell

/-- The lines of a text with a break before each are the text, but for a break at its end. -/
theorem exists_flatMap_linesFrom (line text : List Char) :
    ∃ tail, '\n' :: (line.reverse ++ text) = (linesFrom line text).flatMap ('\n' :: ·) ++ tail ∧
      ∀ c ∈ tail, isBlank c = true := by
  fun_induction linesFrom line text with
  | case1 line hline =>
    obtain rfl := List.isEmpty_iff.1 hline
    exact ⟨['\n'], rfl, List.forall_mem_singleton.2 rfl⟩
  | case2 line hline => exact ⟨[], by simp, nofun⟩
  | case3 line rest ih =>
    obtain ⟨tail, hlines, htail⟩ := ih
    rw [List.reverse_nil, List.nil_append] at hlines
    refine ⟨tail, ?_, htail⟩
    rw [hlines, List.flatMap_cons, List.append_assoc, List.cons_append]
  | case4 line c rest hc ih =>
    obtain ⟨tail, hlines, htail⟩ := ih
    refine ⟨tail, ?_, htail⟩
    rw [← hlines, List.reverse_cons, List.append_assoc]
    rfl

/-- What lines are put together to. -/
def joined (lines : List String) : String :=
  " ".intercalate (lines.map trim)

theorem exists_joined_cons (first : String) (rest : List String) :
    ∃ more, joined (first :: rest) = trim first ++ more := by
  cases rest with
  | nil => exact ⟨"", by simp [joined]⟩
  | cons next rest =>
    refine ⟨" " ++ joined (next :: rest), ?_⟩
    simp only [joined, List.map_cons, String.intercalate_cons_cons, String.append_assoc]

theorem exists_joined_concat (begun : List String) (last : String) :
    ∃ more, joined (begun ++ [last]) = more ++ trim last := by
  by_cases hbegun : begun.map trim = []
  · exact ⟨"", by simp [joined, hbegun]⟩
  · refine ⟨joined begun ++ " ", ?_⟩
    rw [joined, List.map_append, List.map_singleton,
      String.intercalate_append_of_ne_nil hbegun (List.cons_ne_nil _ []),
      String.intercalate_singleton, joined]

theorem cons_intercalate (s : Char) {pieces : List (List Char)} (h : pieces ≠ []) :
    s :: [s].intercalate pieces = pieces.flatMap (s :: ·) := by
  induction pieces with
  | nil => exact absurd rfl h
  | cons piece rest ih =>
    cases rest with
    | nil => simp
    | cons next rest =>
      rw [List.intercalate_cons_cons, List.flatMap_cons, ← ih (List.cons_ne_nil next rest)]
      simp

theorem cons_toList_joined {lines : List String} (h : lines ≠ []) :
    ' ' :: (joined lines).toList = lines.flatMap fun line => ' ' :: trimmed line.toList := by
  have hpieces : (lines.map trim).map String.toList = lines.map fun line => trimmed line.toList := by
    simp [trim, Function.comp_def]
  have hne : (lines.map fun line => trimmed line.toList) ≠ [] := by simpa using h
  rw [joined, String.toList_intercalate, hpieces, ← List.flatMap_map]
  exact cons_intercalate ' ' hne

/-- Lines with the blanks taken off, one blank before each, against the lines with a break before
each. The blanks behind a line are exchanged along with the break that follows them. -/
theorem respaced_lines {tail : List Char} (htail : ∀ c ∈ tail, isBlank c = true)
    (lines : List (List Char)) (a : List Char) {gap : List Char}
    (hgap : ∀ c ∈ gap, isBlank c = true) :
    Respaced (a ++ (gap ++ (lines.flatMap ('\n' :: ·) ++ tail)))
      (a ++ lines.flatMap fun line => ' ' :: trimmed line) := by
  induction lines generalizing a gap with
  | nil =>
    have hblanks : ∀ c ∈ gap ++ tail, isBlank c = true := fun c hc =>
      (List.mem_append.1 hc).elim (hgap c) (htail c)
    have hdrop := Respaced.dropEnd hblanks a
    simpa using hdrop
  | cons line rest ih =>
    obtain ⟨front, back, hline, hfront, hback⟩ := exists_trimmed_append line
    -- the blanks behind the line before, the break and the blanks in front of this line are one gap
    have hblanks : ∀ c ∈ gap ++ '\n' :: front, isBlank c = true := by
      intro c hc
      rcases List.mem_append.1 hc with hc | hc
      · exact hgap c hc
      rcases List.mem_cons.1 hc with rfl | hc
      · rfl
      · exact hfront c hc
    have hbreak : '\n' ∈ gap ++ '\n' :: front := List.mem_append_right gap List.mem_cons_self
    have hexchange := Respaced.exchange hblanks hbreak (List.forall_mem_singleton.2 rfl)
      (List.cons_ne_nil ' ' []) a
      (trimmed line ++ (back ++ (rest.flatMap ('\n' :: ·) ++ tail)))
    have hrest := ih (a ++ ' ' :: trimmed line) hback
    have htext : a ++ (gap ++ ((line :: rest).flatMap ('\n' :: ·) ++ tail)) =
        a ++ (gap ++ '\n' :: front ++
          (trimmed line ++ (back ++ (rest.flatMap ('\n' :: ·) ++ tail)))) := by
      rw [List.flatMap_cons]
      conv_lhs => rw [hline]
      simp
    rw [htext]
    refine hexchange.trans ?_
    simpa using hrest

/-- A text and its lines put together have the same tokens, unless a quoted text goes over a break. -/
theorem respaced_joined {text : String} (h : lines text ≠ []) :
    Respaced text.toList (joined (lines text)).toList := by
  obtain ⟨tail, htext, htail⟩ := exists_flatMap_linesFrom [] text.toList
  have hbreak : ∀ c ∈ ['\n'], isBlank c = true := List.forall_mem_singleton.2 rfl
  have hblank : ∀ c ∈ [' '], isBlank c = true := List.forall_mem_singleton.2 rfl
  have hnone : ∀ c ∈ ([] : List Char), isBlank c = true := nofun
  -- with a blank in front of the first line too, all lines are put together in the same way
  have hjoined : ' ' :: (joined (lines text)).toList =
      (linesFrom [] text.toList).flatMap fun line => ' ' :: trimmed line := by
    rw [cons_toList_joined h, lines, List.flatMap_map]
    simp only [String.toList_ofList]
  have hlines := respaced_lines htail (linesFrom [] text.toList) [] hnone
  rw [List.nil_append, List.nil_append, List.nil_append, ← htext, ← hjoined] at hlines
  have hfirst : Respaced text.toList ('\n' :: text.toList) :=
    .of_scanList_eq (scanList_blanks hbreak text.toList)
  have hlast : Respaced (' ' :: (joined (lines text)).toList) (joined (lines text)).toList :=
    .of_scanList_eq (scanList_blanks hblank _).symm
  exact (hfirst.trans hlines).trans hlast

end Shell

/-- Texts that are the same statement, or no statement either, are carried out alike. -/
theorem Database.execute_congr {m : Type → Type} [Monad m] {text text' : String}
    (h : ∀ statement, Statement.parse text' = .ok statement ↔ Statement.parse text = .ok statement)
    (save : Catalog → m (Except FileFault Unit)) (db : Database) :
    db.execute save text' = db.execute save text := by
  unfold execute
  cases hparse : Statement.parse text with
  | ok statement => rw [(h statement).2 hparse]
  | error fault =>
    cases hparse' : Statement.parse text' with
    | ok statement => cases hparse.symm.trans ((h statement).1 hparse')
    | error fault' => rfl

namespace Session

/-- Lines of one statement: none is blank, the first is no command, and the last is the only one that
ends in a semicolon. -/
structure OneStatement (lines : List String) : Prop where
  not_blank : ∀ line ∈ lines, trim line ≠ ""
  no_command : ∀ line ∈ lines.head?, (trim line).startsWith "." = false
  completed : ∃ begun last, lines = begun ++ [last] ∧
    (∀ line ∈ begun, (trim line).endsWith ";" = false) ∧ (trim last).endsWith ";" = true

/-- What has been begun with a line put to it. -/
def put (pending line : String) : String :=
  if pending.isEmpty then trim line else pending ++ " " ++ trim line

section Put

variable {pending line : String}

theorem put_ne_empty (h : trim line ≠ "") : put pending line ≠ "" := by
  unfold put
  split
  · exact h
  · simp

theorem foldl_put (h : pending ≠ "") (lines : List String) :
    lines.foldl put pending = " ".intercalate (pending :: lines.map trim) := by
  induction lines generalizing pending with
  | nil => simp
  | cons line rest ih =>
    have hput : put pending line = pending ++ " " ++ trim line := by
      rw [put, if_neg (by simpa using h)]
    have hne : pending ++ " " ++ trim line ≠ "" := by simp
    rw [List.foldl_cons, hput, ih hne, List.map_cons, String.intercalate_cons_append,
      String.intercalate_cons_cons]

theorem foldl_put_empty {lines : List String} (hne : lines ≠ [])
    (h : ∀ line ∈ lines, trim line ≠ "") : lines.foldl put "" = Shell.joined lines := by
  obtain ⟨first, rest, rfl⟩ := List.exists_cons_of_ne_nil hne
  have hput : put "" first = trim first := rfl
  rw [List.foldl_cons, hput, foldl_put (h first List.mem_cons_self), Shell.joined, List.map_cons]

end Put

section Read

variable {m : Type → Type} [Monad m] [Disk m] {s : Session} {line : String}

/-- A line of a statement completes it if it ends in a semicolon. -/
theorem readLine_eq (hblank : trim line ≠ "")
    (hcommand : s.pending = "" → (trim line).startsWith "." = false) :
    s.readLine (m := m) line =
      if (trim line).endsWith ";" then do
        let (s, shown) ← s.finish (put s.pending line)
        return (some s, shown)
      else
        pure (some { s with pending := put s.pending line }, []) := by
  have hno : (s.pending.isEmpty && (trim line).startsWith ".") = false := by
    rw [Bool.and_eq_false_imp]
    exact fun h => hcommand (by simpa using h)
  have hempty : (trim line).isEmpty = false := by simpa using hblank
  simp only [readLine, hno, hempty, Bool.false_eq_true, if_false, put]

/-- A statement is finished without another look at what has been begun. -/
theorem finish_of_pending (s : Session) (pending statement : String) :
    ({ s with pending } : Session).finish (m := m) statement = s.finish statement :=
  rfl

/-- A line that does not complete the statement is put to what has been begun, and the last one has it
finished. -/
theorem readLines_eq_finish [LawfulMonad m] {begun : List String} {last : String}
    (hblank : ∀ line ∈ begun ++ [last], trim line ≠ "")
    (hcommand : s.pending = "" → ∀ line ∈ (begun ++ [last]).head?,
      (trim line).startsWith "." = false)
    (hbegun : ∀ line ∈ begun, (trim line).endsWith ";" = false)
    (hlast : (trim last).endsWith ";" = true) :
    s.readLines (m := m) (begun ++ [last]) = do
      let (s, shown) ← s.finish ((begun ++ [last]).foldl put s.pending)
      return (some s, shown) := by
  induction begun generalizing s with
  | nil =>
    have hread := readLine_eq (m := m) (hblank last List.mem_cons_self)
      (fun h => hcommand h last rfl)
    rw [if_pos hlast] at hread
    rw [List.nil_append, readLines, hread]
    simp [readLines]
  | cons line rest ih =>
    have hline := hblank line List.mem_cons_self
    have hread := readLine_eq (m := m) hline (fun h => hcommand h line rfl)
    rw [hbegun line List.mem_cons_self, if_neg Bool.false_ne_true] at hread
    -- from now on a statement has been begun, so no line is a command
    have hpending : put s.pending line ≠ "" := put_ne_empty hline
    have hrest := ih (s := { s with pending := put s.pending line })
      (fun l hl => hblank l (List.mem_cons_of_mem line hl)) (fun h => absurd h hpending)
      (fun l hl => hbegun l (List.mem_cons_of_mem line hl))
    rw [List.cons_append, readLines, hread, pure_bind]
    simp [hrest, finish_of_pending]

end Read

section Statement

variable {m : Type → Type} [Monad m] [Disk m]

/-- One text is carried out as a statement, and its answer is shown. -/
def carryOut (s : Session) (text : String) : m (Option Session × List Output) := do
  let (answer, database) ← s.database.execute s.store.save text
  return (some { s with database }, [showAnswer answer])

namespace OneStatement

variable {lines : List String} (h : OneStatement lines)
include h

theorem ne_nil : lines ≠ [] := by
  obtain ⟨begun, last, rfl, -⟩ := h.completed
  exact List.append_ne_nil_of_right_ne_nil begun (List.cons_ne_nil last [])

theorem isBlank_of_mem_head? : ∀ c ∈ (Shell.joined lines).toList.head?, isBlank c = false := by
  obtain ⟨first, rest, rfl⟩ := List.exists_cons_of_ne_nil h.ne_nil
  obtain ⟨more, hmore⟩ := Shell.exists_joined_cons first rest
  have hne : (trim first).toList ≠ [] := by simpa using h.not_blank first List.mem_cons_self
  have hfirst := isBlank_of_mem_head?_trimmed first.toList
  rw [hmore, String.toList_append, List.head?_append_of_ne_nil _ hne]
  rwa [trim, String.toList_ofList]

theorem getLast?_joined : (Shell.joined lines).toList.getLast? = some ';' := by
  obtain ⟨begun, last, rfl, -, hlast⟩ := h.completed
  obtain ⟨more, hmore⟩ := Shell.exists_joined_concat begun last
  rw [String.endsWith_eq_endsWith_toSlice, String.Slice.endsWith_string_iff,
    String.copy_toSlice] at hlast
  obtain ⟨front, hfront⟩ := hlast
  rw [hmore, String.toList_append, ← hfront, ← List.append_assoc]
  exact List.getLast?_concat

/-- Lines put together begin with a character of the first and end in the semicolon of the last. -/
theorem trim_joined : trim (Shell.joined lines) = Shell.joined lines := by
  have hlast : ∀ c ∈ (Shell.joined lines).toList.getLast?, isBlank c = false := by
    rw [h.getLast?_joined]
    rintro c ⟨⟩
    rfl
  rw [trim, trimmed_eq_self h.isBlank_of_mem_head? hlast, String.ofList_toList]

theorem finish_joined {s : Session} (hs : s.pending = "") :
    s.finish (m := m) (Shell.joined lines) = do
      let (answer, database) ← s.database.execute s.store.save (Shell.joined lines)
      return ({ s with database }, [showAnswer answer]) := by
  have hne : (Shell.joined lines).isEmpty = false := by
    rw [Bool.eq_false_iff]
    intro hempty
    have hlast := h.getLast?_joined
    rw [String.isEmpty_iff.1 hempty] at hlast
    cases hlast
  obtain ⟨store, database, pending⟩ := s
  obtain rfl : pending = "" := hs
  simp only [finish, h.trim_joined, hne, Bool.false_eq_true, if_false]

/-- The lines of one statement make the session carry out one text, the lines put together. -/
theorem readLines_eq_carryOut [LawfulMonad m] {s : Session} (hs : s.pending = "") :
    s.readLines (m := m) lines = s.carryOut (Shell.joined lines) := by
  have hfold := foldl_put_empty h.ne_nil h.not_blank
  have hfinish := h.finish_joined (m := m) hs
  obtain ⟨begun, last, hlines, hbegun, hlast⟩ := h.completed
  have hread := readLines_eq_finish (m := m) (s := s) (hlines ▸ h.not_blank)
    (fun _ => hlines ▸ h.no_command) hbegun hlast
  rw [← hlines, hs, hfold, hfinish] at hread
  rw [hread, bind_assoc]
  simp only [pure_bind, carryOut]

end OneStatement

/-- The lines of a text that are one statement are carried out as one statement, the lines put together.
It is the statement that the text is, unless a quoted text goes over a line break. -/
theorem readLines_statement [LawfulMonad m] {s : Session} (hs : s.pending = "") {text : String}
    (h : OneStatement (Shell.lines text)) :
    s.readLines (m := m) (Shell.lines text) = s.carryOut (Shell.joined (Shell.lines text)) ∧
    ((∀ tokens, scan text = .ok tokens → Unbroken tokens) →
      s.readLines (m := m) (Shell.lines text) = s.carryOut text) := by
  have hread := h.readLines_eq_carryOut (m := m) hs
  refine ⟨hread, fun hunbroken => hread.trans ?_⟩
  have hparse := (Shell.respaced_joined h.ne_nil).parse_eq_ok_iff hunbroken
  rw [carryOut, Database.execute_congr hparse, carryOut]

/-- Lines that end in breaks of both kinds, blanks at their ends, and a quoted text within one line. -/
theorem readLines_statement_of_three_lines :
    let s : Session := .start ⟨⟨"db", false, false⟩, 0⟩ (.ofCatalog .empty)
    let text := "INSERT INTO t\n  VALUES ('a b',\r\n\t7)  ;\n"
    Shell.lines text = ["INSERT INTO t", "  VALUES ('a b',\r", "\t7)  ;"] ∧
    s.readLines (m := StateM FileSystem) (Shell.lines text) = s.carryOut text := by
  intro s text
  have hlines : Shell.lines text = ["INSERT INTO t", "  VALUES ('a b',\r", "\t7)  ;"] := by
    decide +kernel
  have hone : OneStatement (Shell.lines text) := by
    rw [hlines]
    refine ⟨by decide +kernel, by decide +kernel, ["INSERT INTO t", "  VALUES ('a b',\r"],
      "\t7)  ;", rfl, ?_, ?_⟩
    · decide +kernel
    · decide +kernel
  have hscan : scan text = .ok [.word "INSERT", .word "INTO", .word "t", .word "VALUES",
      .symbol .openParen, .quoted "a b", .symbol .comma, .number "7", .symbol .closeParen,
      .symbol .semicolon] := by decide +kernel
  refine ⟨hlines, (readLines_statement rfl hone).2 fun tokens htokens content hcontent => ?_⟩
  cases hscan.symm.trans htokens
  have hquoted : content = "a b" := by simpa using hcontent
  rw [hquoted]
  decide

/-- A quoted text over a line break is stored with a blank in it if it is typed, and with the break if it
is executed as it is. -/
theorem readLines_ne_execute_of_broken_quote :
    ∃ (s : Session) (w : FileSystem), s.pending = "" ∧
      let text := "INSERT INTO t VALUES ('a\nb');"
      let typed := (s.readLines (m := StateM FileSystem) (Shell.lines text) w).1.1
      let executed := (s.database.execute (m := StateM FileSystem) s.store.save text w).1.2
      OneStatement (Shell.lines text) ∧
      typed.map (·.database.catalog) ≠ some executed.catalog ∧
      (∃ s' t, typed = some s' ∧ s'.database.catalog.find? "t" = some t ∧
        t.rows = [.ofList [("v", .text "a b")]]) ∧
      ∃ t, executed.catalog.find? "t" = some t ∧ t.rows = [.ofList [("v", .text "a\nb")]] := by
  obtain ⟨store, w, db, hreach, hhalted, ⟨t, hfind, hkey, hcolumns, hrows⟩, -, -⟩ :=
    exists_reachable_of_empty_table
  have hlines : Shell.lines "INSERT INTO t VALUES ('a\nb');" =
      ["INSERT INTO t VALUES ('a", "b');"] := by decide +kernel
  have hone : OneStatement (Shell.lines "INSERT INTO t VALUES ('a\nb');") := by
    rw [hlines]
    refine ⟨by decide +kernel, by decide +kernel, ["INSERT INTO t VALUES ('a"], "b');", rfl, ?_, ?_⟩
    · decide +kernel
    · decide +kernel
  have hjoined : Shell.joined (Shell.lines "INSERT INTO t VALUES ('a\nb');") =
      "INSERT INTO t VALUES ('a b');" := by decide +kernel
  have htyped : Statement.parse "INSERT INTO t VALUES ('a b');" =
      .ok (.insert "t" [.quoted "a b"]) := by decide +kernel
  have hexecuted : Statement.parse "INSERT INTO t VALUES ('a\nb');" =
      .ok (.insert "t" [.quoted "a\nb"]) := by decide +kernel
  have hcount : 1 = t.schema.columnNames.length := by
    rw [hcolumns]
    rfl
  obtain ⟨typed, htypedFind, htypedRows⟩ := Database.exists_inserted_of_no_key
    (store.save (m := StateM FileSystem)) hreach.wellFormed hhalted hfind hkey htyped hcount w
  obtain ⟨executed, hexecutedFind, hexecutedRows⟩ := Database.exists_inserted_of_no_key
    (store.save (m := StateM FileSystem)) hreach.wellFormed hhalted hfind hkey hexecuted hcount w
  rw [hrows, hcolumns] at htypedRows hexecutedRows
  have hread := hone.readLines_eq_carryOut (m := StateM FileSystem) (s := .start store db) rfl
  rw [hjoined] at hread
  refine ⟨.start store db, w, rfl, hone, ?_, ?_, executed, hexecutedFind, hexecutedRows⟩
  · rw [hread]
    intro hsame
    have hcatalog := Option.some.inj hsame
    have htables := congrArg (Catalog.find? · "t") hcatalog
    cases (htypedFind.symm.trans htables).trans hexecutedFind
    exact absurd (htypedRows.symm.trans hexecutedRows) (by decide)
  · rw [hread]
    exact ⟨_, typed, rfl, htypedFind, htypedRows⟩

end Statement

end Session
end RelStore
