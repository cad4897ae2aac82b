/-
Printing leases, and reading them back.

A lease is printed as a block of statements in any order, with any blanks between the words and
any blanks and line ends between the statements.  No alternative of the parser takes a statement
of another kind, and none takes more or less than the value that was printed: a quoted value ends
at its quote, an unquoted one at the semicolon.
-/
import Dumbarp.IscDhclient.Block
import Dumbarp.IscDhclient.Date
import Dumbarp.Lib.Fields

namespace Dumbarp.IscDhclient

open Civil Parse

variable {platform : Platform}

/-! ## Printing -/

/-- How a statement is printed: its blanks, the weekday before a date, and whether the value of
an option stands in quotes. -/
structure Style where
  afterKeyword : Run isBlank
  afterKey : Run isBlank
  afterWeekday : Run isBlank
  afterDay : Run isBlank
  weekday : UInt32
  quoted : Bool

/-- A number with leading zeros up to a width. -/
def padded (width n : ℕ) : List Char :=
  List.replicate (width - (Nat.toDigits 10 n).length) '0' ++ Nat.toDigits 10 n

lemma padded_digits {width n : ℕ} : padded width n ≠ [] ∧ ∀ c ∈ padded width n, c.isDigit := by
  refine ⟨by simp [padded, Nat.toDigits_ne_nil], fun c hc => ?_⟩
  rcases List.mem_append.mp hc with hc | hc
  · rw [List.eq_of_mem_replicate hc]
    decide
  · exact Nat.isDigit_of_mem_toDigits (by decide) (by decide) hc

/-- The number as a run of digits. -/
def digitsRun (width n : ℕ) : Run Char.isDigit := ⟨padded width n, padded_digits⟩

lemma digitsValue_digitsRun {width n : ℕ} : digitsValue (digitsRun width n) = n := by
  show Nat.ofDigitChars 10 (padded width n) 0 = n
  rw [padded, Nat.ofDigitChars_append, Nat.ofDigitChars_replicate_zero, Nat.mul_zero,
    Nat.ofDigitChars_ten_toDigits]

/-- A printed date. -/
def dateText (style : Style) (t : DateTime) : DateText where
  weekday := digitsRun 1 style.weekday.toNat
  afterWeekday := style.afterWeekday
  day := ⟨digitsRun 4 t.date.year.toNat, digitsRun 2 t.date.month, digitsRun 2 t.date.day⟩
  afterDay := style.afterDay
  time := ⟨digitsRun 2 t.hour, digitsRun 2 t.minute, digitsRun 2 t.second⟩

/-- A value in quotes. -/
def quote (v : String) : List Char := '"' :: (v.toList ++ ['"'])

/-- The word that a statement begins with. -/
def LeaseStmt.keyword : LeaseStmt → String
  | interface _ => "interface"
  | fixedAddress _ => "fixed-address"
  | option _ _ => "option"
  | renew _ => "renew"
  | rebind _ => "rebind"
  | expire _ => "expire"

/-- What a statement says behind its keyword. -/
def LeaseStmt.body (style : Style) : LeaseStmt → List Char
  | interface v => quote v
  | fixedAddress v => v.toList
  | option k v => k.toList ++ (style.afterKey.val ++ if style.quoted then quote v else v.toList)
  | renew t | rebind t | expire t => (dateText style t).text

/-- A printed statement, without its semicolon. -/
def LeaseStmt.print (style : Style) (s : LeaseStmt) : List Char :=
  s.keyword.toList ++ (style.afterKeyword.val ++ s.body style)

/-- A value that can stand in quotes. -/
def Quotable (v : String) : Prop := v ≠ "" ∧ '"' ∉ v.toList

/-- A value that can stand without quotes. -/
structure Plain (v : String) : Prop where
  nonempty : v ≠ ""
  semicolon : ';' ∉ v.toList
  first : ∀ c ∈ v.toList.head?, c ≠ '"' ∧ isBlank c = false
  last : ∀ c ∈ v.toList.getLast?, Engine.isWhitespace c = false

/-- The characters of an address or of a key: the alphanumeric ones and one more. -/
def isWord (platform : Platform) (d c : Char) : Bool := platform.isAlphanumeric c || c = d

/-- A date with a year of four digits. -/
def FourDigitYear (t : DateTime) : Prop := 1 ≤ t.date.year ∧ t.date.year ≤ 9999

/-- The values that can be printed. -/
def Printable (platform : Platform) (style : Style) : LeaseStmt → Prop
  | .interface v => Quotable v
  | .fixedAddress v => v ≠ "" ∧ ∀ c ∈ v.toList, isWord platform '.' c = true
  | .option k v => k ≠ "" ∧ (∀ c ∈ k.toList, isWord platform '-' c = true) ∧
      if style.quoted then Quotable v else Plain v
  | .renew t | .rebind t | .expire t => FourDigitYear t

/-! ## Values -/

section Values

variable {style : Style} {v : String} {t : DateTime} {rest : List Char}

/-- A run of characters of a class is taken up to a character outside. -/
lemma run_takeWhile1_toList {k : Char → Bool} {c : Char} (hv : v ≠ "")
    (hall : ∀ c ∈ v.toList, k c = true) (hc : k c = false) :
    (takeWhile1 k).run (v.toList ++ c :: rest) = some (v.toList, c :: rest) :=
  run_takeWhile1_eq_some.mpr ⟨by simpa using hv, rfl, hall, by simpa using hc⟩

/-- **A quoted value** is read up to its quote, whatever it contains. -/
lemma run_parseStringLit_quote (h : Quotable v) :
    parseStringLit.run (quote v ++ rest) = some (v, rest) := by
  have htext : quote v ++ rest = "\"".toList ++ (v.toList ++ '"' :: rest) := by simp [quote]
  have hvalue : (takeWhile1 fun c => decide (c ≠ '"')).run (v.toList ++ '"' :: rest) =
      some (v.toList, '"' :: rest) := by
    refine run_takeWhile1_toList h.1 (fun c hc => ?_) (by decide)
    exact decide_eq_true (ne_of_mem_of_not_mem hc h.2)
  rw [htext]
  refine (run_bind_of_some run_tag).trans ?_
  refine (run_bind_of_some hvalue).trans ?_
  refine (run_bind_of_some (@run_tag rest "\"")).trans ?_
  rw [String.ofList_toList]
  rfl

/-- No string literal begins with an unquoted value. -/
lemma run_parseStringLit_plain (h : Plain v) : parseStringLit.run (v.toList ++ rest) = none := by
  refine run_bind_of_none (run_tag_eq_none ?_)
  have hne : v.toList ≠ [] := by simpa using h.nonempty
  have hfirst := h.first
  cases hv : v.toList with
  | nil => exact absurd hv hne
  | cons c cs =>
    rw [hv] at hfirst
    have hc : c ≠ '"' := (hfirst c rfl).1
    simpa using hc.symm

/-- Nothing is trimmed off an unquoted value. -/
lemma trimEnd_plain (h : Plain v) : trimEnd v.toList = v.toList := by
  rw [trimEnd, List.rdropWhile_eq_self_iff]
  intro hne
  rw [h.last _ (List.getLast?_eq_some_getLast hne)]
  simp

/-- A printed date is read as the date. -/
lemma dateText_gives (hplatform : platform.Documented) (h : FourDigitYear t) :
    (dateText style t).Gives platform t := by
  have hyear : (dateText style t).year = t.date.year.toNat := digitsValue_digitsRun
  obtain ⟨hge, hle⟩ := h
  have hcast : (dateText style t).castYear = t.date.year := by
    rw [DateText.castYear_eq (by omega), if_pos (by omega), hyear]
    omega
  have hmin := hplatform.chrono.minYear
  have hmax := hplatform.chrono.maxYear
  refine ⟨?_, by omega, hcast.symm, by omega, ?_, ?_, ?_, ?_, ?_⟩
  · exact digitsValue_digitsRun.trans_lt style.weekday.toNat_lt
  all_goals exact digitsValue_digitsRun.symm

/-- The blanks behind a keyword are skipped. -/
lemma run_tag_space1 {β : Type} {f : Parser β} {keyword : String} {blanks : Run isBlank}
    {t : List Char} (h : Stops isBlank t) :
    (do tag keyword; let _ ← space1; f : Parser β).run
      (keyword.toList ++ (blanks.val ++ t)) = f.run t := by
  refine (run_bind_of_some run_tag).trans ?_
  exact run_bind_of_some (run_takeWhile1_run blanks h)

/-- A quoted value begins with no blank. -/
lemma stops_quote : Stops isBlank (quote v ++ rest) := by
  rw [quote, List.cons_append, stops_cons]
  decide

lemma run_parseInterface_print (h : Quotable v) :
    parseInterface.run ("interface".toList ++ (style.afterKeyword.val ++
      (quote v ++ rest))) = some (v, rest) := by
  rw [parseInterface, run_tag_space1 stops_quote]
  exact run_parseStringLit_quote h

lemma isWord_eq_false (hplatform : platform.Documented) {d c : Char} (hc : c.toNat < 128)
    (hword : c.isAlphanum = false) (hne : c ≠ d) : isWord platform d c = false := by
  rw [isWord, hplatform.ascii c hc, hword]
  simpa using hne

/-- No blank stands in a word. -/
lemma isWord_of_isBlank (hplatform : platform.Documented) {d c : Char} (hd : isBlank d = false)
    (h : isBlank c = true) : isWord platform d c = false := by
  have hne : c ≠ d := fun heq => by
    rw [heq, hd] at h
    cases h
  simp only [isBlank, Bool.or_eq_true, decide_eq_true_eq] at h
  rcases h with rfl | rfl
  · exact isWord_eq_false hplatform (by decide) (by decide) hne
  · exact isWord_eq_false hplatform (by decide) (by decide) hne

/-- A word begins with no blank. -/
lemma stops_word (hplatform : platform.Documented) {d : Char} (hd : isBlank d = false)
    (hne : v ≠ "") (hword : ∀ c ∈ v.toList, isWord platform d c = true) :
    Stops isBlank (v.toList ++ rest) := by
  refine Run.stops (fun c hc => ?_) ⟨v.toList, by simpa using hne, hword⟩
  by_contra hblank
  rw [isWord_of_isBlank hplatform hd (by simpa using hblank)] at hc
  cases hc

lemma run_parseFixedAddress_print (hplatform : platform.Documented) (hne : v ≠ "")
    (hword : ∀ c ∈ v.toList, isWord platform '.' c = true) :
    (parseFixedAddress platform).run ("fixed-address".toList ++ (style.afterKeyword.val ++
      (v.toList ++ ';' :: rest))) = some (v, ';' :: rest) := by
  have hend : isWord platform '.' ';' = false :=
    isWord_eq_false hplatform (by decide) (by decide) (by decide)
  rw [parseFixedAddress, run_tag_space1 (stops_word hplatform (by decide) hne hword)]
  refine (run_bind_of_some (run_takeWhile1_toList hne hword hend)).trans ?_
  rw [String.ofList_toList]
  rfl

/-- The value of an option is read as it was printed. -/
lemma run_value_print (hvalue : if style.quoted then Quotable v else Plain v) :
    parseOptionValue.run ((if style.quoted then quote v else v.toList) ++ ';' :: rest) =
      some (v, ';' :: rest) := by
  cases hquoted : style.quoted with
  | true =>
    rw [hquoted, if_pos rfl] at hvalue
    exact run_orElse_of_some (run_parseStringLit_quote hvalue)
  | false =>
    simp only [hquoted, Bool.false_eq_true, if_false] at hvalue ⊢
    have htake : (takeWhile1 fun c => decide (c ≠ ';')).run (v.toList ++ ';' :: rest) =
        some (v.toList, ';' :: rest) :=
      run_takeWhile1_toList hvalue.nonempty
        (fun c hc => decide_eq_true (ne_of_mem_of_not_mem hc hvalue.semicolon)) (by decide)
    refine (run_orElse_of_none (run_parseStringLit_plain hvalue)).trans ?_
    refine (run_bind_of_some htake).trans ?_
    rw [trimEnd_plain hvalue, String.ofList_toList]
    rfl

/-- The value of an option begins with no blank. -/
lemma stops_value (hvalue : if style.quoted then Quotable v else Plain v) :
    Stops isBlank ((if style.quoted then quote v else v.toList) ++ rest) := by
  cases hquoted : style.quoted with
  | true => exact stops_quote
  | false =>
    simp only [hquoted, Bool.false_eq_true, if_false] at hvalue ⊢
    have hne : v.toList ≠ [] := by simpa using hvalue.nonempty
    exact Stops.append (fun c hc => (hvalue.first c hc).2) hne

/-- The key of an option is read, and its value is parsed behind the blanks. -/
lemma run_parseOption_key (hplatform : platform.Documented) {k : String} {blanks : Run isBlank}
    {t : List Char} (hne : k ≠ "") (hword : ∀ c ∈ k.toList, isWord platform '-' c = true)
    (hstop : Stops isBlank t) :
    (parseOption platform).run ("option".toList ++ (blanks.val ++ (k.toList ++
        (style.afterKey.val ++ t)))) =
      (do let value ← parseOptionValue; return (k, value) : Parser (String × String)).run t := by
  have hkey : (takeWhile1 (isWord platform '-')).run (k.toList ++ (style.afterKey.val ++ t)) =
      some (k.toList, _) :=
    run_takeWhile1_eq_some.mpr ⟨by simpa using hne, rfl, hword,
      style.afterKey.stops fun c => isWord_of_isBlank hplatform (by decide)⟩
  rw [parseOption, run_tag_space1 (stops_word hplatform (by decide) hne hword)]
  refine (run_bind_of_some hkey).trans ?_
  refine (run_bind_of_some (run_takeWhile1_run _ hstop)).trans ?_
  rw [String.ofList_toList]

lemma run_parseOption_print (hplatform : platform.Documented) {k : String}
    (hne : k ≠ "") (hword : ∀ c ∈ k.toList, isWord platform '-' c = true)
    (hvalue : if style.quoted then Quotable v else Plain v) :
    (parseOption platform).run ("option".toList ++ (style.afterKeyword.val ++ (k.toList ++
        (style.afterKey.val ++ ((if style.quoted then quote v else v.toList) ++ ';' :: rest))))) =
      some ((k, v), ';' :: rest) := by
  rw [run_parseOption_key hplatform hne hword (stops_value hvalue)]
  exact run_bind_of_some (run_value_print hvalue)

/-- **A printed date** is read behind its keyword. -/
lemma run_parseDated_print (hplatform : platform.Documented) (h : FourDigitYear t)
    {keyword : String} :
    (parseDated platform keyword).run (keyword.toList ++ (style.afterKeyword.val ++
        ((dateText style t).text ++ ';' :: rest))) = some (t, ';' :: rest) := by
  refine (run_tag_space1 (dateText style t).stops).trans ?_
  exact run_parseDatetime_eq_some.mpr
    ⟨dateText style t, rfl, by simp, dateText_gives hplatform h⟩

end Values

/-! ## Statements -/

section Statements

variable {style : Style} {s : LeaseStmt} {rest : List Char}

lemma keyword_mem (s : LeaseStmt) : s.keyword ∈ keywords := by
  cases s <;> simp [LeaseStmt.keyword, keywords]

/-- **The alternatives** read a printed statement: only the one of its kind matches. -/
lemma run_parseAlternatives_print (hplatform : platform.Documented)
    (h : Printable platform style s) :
    (parseAlternatives platform).run (s.print style ++ ';' :: rest) = some (s, ';' :: rest) := by
  have htext : s.print style ++ ';' :: rest =
      s.keyword.toList ++ (style.afterKeyword.val ++ (s.body style ++ ';' :: rest)) := by
    rw [LeaseStmt.print, List.append_assoc, List.append_assoc]
  rw [htext]
  cases s with
  | interface v =>
    have hmem : ("interface", LeaseStmt.interface <$> parseInterface) ∈ alternatives platform := by
      simp [alternatives]
    exact (run_parseAlternatives_keyword hmem).trans
      (run_map_of_some (run_parseInterface_print h))
  | fixedAddress v =>
    have hmem : ("fixed-address", LeaseStmt.fixedAddress <$> parseFixedAddress platform) ∈
        alternatives platform := by
      simp [alternatives]
    exact (run_parseAlternatives_keyword hmem).trans
      (run_map_of_some (run_parseFixedAddress_print hplatform h.1 h.2))
  | option k v =>
    have hmem : ("option", (fun kv => LeaseStmt.option kv.1 kv.2) <$> parseOption platform) ∈
        alternatives platform := by
      simp [alternatives]
    rw [LeaseStmt.body]
    simp only [List.append_assoc]
    exact (run_parseAlternatives_keyword hmem).trans
      (run_map_of_some (run_parseOption_print hplatform h.1 h.2.1 h.2.2))
  | renew t =>
    have hmem : ("renew", LeaseStmt.renew <$> parseRenew platform) ∈ alternatives platform := by
      simp [alternatives]
    exact (run_parseAlternatives_keyword hmem).trans
      (run_map_of_some (run_parseDated_print hplatform h))
  | rebind t =>
    have hmem : ("rebind", LeaseStmt.rebind <$> parseRebind platform) ∈ alternatives platform := by
      simp [alternatives]
    exact (run_parseAlternatives_keyword hmem).trans
      (run_map_of_some (run_parseDated_print hplatform h))
  | expire t =>
    have hmem : ("expire", LeaseStmt.expire <$> parseExpire platform) ∈ alternatives platform := by
      simp [alternatives]
    exact (run_parseAlternatives_keyword hmem).trans
      (run_map_of_some (run_parseDated_print hplatform h))

lemma keywords_begin :
    ∀ k ∈ keywords, k.toList ≠ [] ∧ ∀ c ∈ k.toList.head?, isSpace c = false := by
  decide

/-- A keyword begins with a letter. -/
lemma stops_keyword {k : String} (hk : k ∈ keywords) : Stops isSpace (k.toList ++ rest) :=
  Stops.append (keywords_begin k hk).2 (keywords_begin k hk).1

lemma stops_print : Stops isSpace (s.print style ++ rest) := by
  rw [LeaseStmt.print, List.append_assoc]
  exact stops_keyword (keyword_mem s)

/-- **A printed statement** is read with its gap and its semicolon. -/
theorem reads_print (hplatform : platform.Documented) (h : Printable platform style s) (gap : Gap) :
    Reads (parseStmt platform) (gap.val ++ (s.print style ++ [';'])) s := by
  intro rest
  have htext : gap.val ++ (s.print style ++ [';']) ++ rest =
      gap.val ++ (s.print style ++ ';' :: rest) := by
    simp only [List.append_assoc, List.cons_append, List.nil_append]
  rw [htext, run_parseStmt gap stops_print]
  refine (run_bind_of_some (run_parseAlternatives_print hplatform h)).trans ?_
  exact run_bind_of_some run_char

end Statements

/-! ## Leases -/

/-- The statements of a lease. -/
def Lease.statements (lease : Lease) : List LeaseStmt :=
  (lease.interface.map LeaseStmt.interface).toList ++
    (lease.fixedAddress.map LeaseStmt.fixedAddress).toList ++
    lease.options.map (fun kv => LeaseStmt.option kv.1 kv.2) ++
    (lease.renew.map LeaseStmt.renew).toList ++
    (lease.rebind.map LeaseStmt.rebind).toList ++
    (lease.expire.map LeaseStmt.expire).toList

/-- What a statement sets, by its kind. -/
def LeaseStmt.asInterface : LeaseStmt → Option String
  | interface v => some v
  | _ => none

def LeaseStmt.asFixedAddress : LeaseStmt → Option String
  | fixedAddress v => some v
  | _ => none

def LeaseStmt.asOption : LeaseStmt → Option (String × String)
  | option k v => some (k, v)
  | _ => none

def LeaseStmt.asRenew : LeaseStmt → Option DateTime
  | renew v => some v
  | _ => none

def LeaseStmt.asRebind : LeaseStmt → Option DateTime
  | rebind v => some v
  | _ => none

def LeaseStmt.asExpire : LeaseStmt → Option DateTime
  | expire v => some v
  | _ => none

lemma foldl_add_options {stmts : List LeaseStmt} {lease : Lease} :
    (stmts.foldl Lease.add lease).options =
      lease.options ++ stmts.filterMap LeaseStmt.asOption := by
  induction stmts generalizing lease with
  | nil => simp
  | cons s stmts ih =>
    rw [List.foldl_cons, ih]
    cases s <;> simp [Lease.add, LeaseStmt.asOption, List.filterMap_cons]

/-- A field that statements of one kind set is the same for any order of the statements. -/
lemma foldl_add_field {stmts : List LeaseStmt} {lease : Lease} (h : stmts.Perm lease.statements)
    {V : Type} (get : Lease → Option V) (f : LeaseStmt → Option V) (mk : V → LeaseStmt)
    (hadd : ∀ l s, get (l.add s) = (f s).or (get l)) (hf : ∀ s v, f s = some v ↔ s = mk v)
    (hmem : ∀ v, mk v ∈ lease.statements ↔ get lease = some v) (hnone : get {} = none) :
    get (stmts.foldl Lease.add {}) = get lease := by
  refine Fields.foldl_eq hadd (fun v => ?_) hnone
  rw [← hmem]
  simp [h.mem_iff, hf]

/-- **The statements of a lease**, in any order, make up the lease, with the options in the
order of their statements. -/
theorem foldl_add_of_perm {stmts : List LeaseStmt} {lease : Lease}
    (h : stmts.Perm lease.statements) :
    stmts.foldl Lease.add {} =
      { lease with options := stmts.filterMap LeaseStmt.asOption } := by
  ext1
  · exact foldl_add_field h Lease.interface LeaseStmt.asInterface .interface
      (fun l s => by cases s <;> simp [Lease.add, LeaseStmt.asInterface])
      (fun s v => by cases s <;> simp [LeaseStmt.asInterface])
      (fun v => by simp [Lease.statements]) rfl
  · exact foldl_add_field h Lease.fixedAddress LeaseStmt.asFixedAddress .fixedAddress
      (fun l s => by cases s <;> simp [Lease.add, LeaseStmt.asFixedAddress])
      (fun s v => by cases s <;> simp [LeaseStmt.asFixedAddress])
      (fun v => by simp [Lease.statements]) rfl
  · rw [foldl_add_options]
    rfl
  · exact foldl_add_field h Lease.renew LeaseStmt.asRenew .renew
      (fun l s => by cases s <;> simp [Lease.add, LeaseStmt.asRenew])
      (fun s v => by cases s <;> simp [LeaseStmt.asRenew])
      (fun v => by simp [Lease.statements]) rfl
  · exact foldl_add_field h Lease.rebind LeaseStmt.asRebind .rebind
      (fun l s => by cases s <;> simp [Lease.add, LeaseStmt.asRebind])
      (fun s v => by cases s <;> simp [LeaseStmt.asRebind])
      (fun v => by simp [Lease.statements]) rfl
  · exact foldl_add_field h Lease.expire LeaseStmt.asExpire .expire
      (fun l s => by cases s <;> simp [Lease.add, LeaseStmt.asExpire])
      (fun s v => by cases s <;> simp [LeaseStmt.asExpire])
      (fun v => by simp [Lease.statements]) rfl

/-! ## Files -/

/-- A printed statement with the gap before it. -/
structure PrintedStmt where
  gap : Gap
  style : Style
  stmt : LeaseStmt

/-- The characters of the statement and its semicolon. -/
def PrintedStmt.text (s : PrintedStmt) : List Char :=
  s.gap.val ++ (s.stmt.print s.style ++ [';'])

/-- A printed lease: its statements as they are arranged, and the gaps of its block. -/
structure PrintedLease where
  lease : Lease
  before : Gap
  beforeBrace : Gap
  stmts : List PrintedStmt
  beforeEnd : Gap

/-- The characters of the block. -/
def PrintedLease.text (p : PrintedLease) : List Char :=
  opening p.before p.beforeBrace ++
    ((p.stmts.map PrintedStmt.text).flatten ++ (p.beforeEnd.val ++ ['\x7d']))

/-- The statements of the lease are all there, and their values can be printed. -/
structure PrintedLease.Valid (platform : Platform) (p : PrintedLease) : Prop where
  arranged : (p.stmts.map PrintedStmt.stmt).Perm p.lease.statements
  printable : ∀ s ∈ p.stmts, Printable platform s.style s.stmt

/-- The lease with its options in printed order. -/
def PrintedLease.result (p : PrintedLease) : Lease :=
  { p.lease with options := (p.stmts.map PrintedStmt.stmt).filterMap LeaseStmt.asOption }

/-- A printed statement as a supported one. -/
def PrintedStmt.stmtText (hplatform : platform.Documented) (s : PrintedStmt)
    (h : Printable platform s.style s.stmt) : StmtText platform :=
  ⟨s.text, s.stmt, reads_print hplatform h s.gap⟩

/-- A printed lease as a block of supported statements. -/
def PrintedLease.leaseText (hplatform : platform.Documented) (p : PrintedLease)
    (h : p.Valid platform) : LeaseText platform :=
  ⟨p.before, p.beforeBrace, p.stmts.pmap (PrintedStmt.stmtText hplatform) h.printable,
    p.beforeEnd⟩

section Files

variable {p : PrintedLease}

lemma PrintedLease.leaseText_text (hplatform : platform.Documented) (h : p.Valid platform) :
    (p.leaseText hplatform h).text = p.text := by
  simp [LeaseText.text, PrintedLease.text, leaseText, stmtsText, List.map_pmap,
    PrintedStmt.stmtText]

lemma PrintedLease.leaseText_lease (hplatform : platform.Documented) (h : p.Valid platform) :
    (p.leaseText hplatform h).lease = p.result := by
  rw [PrintedLease.result, ← foldl_add_of_perm h.arranged]
  simp [LeaseText.lease, leaseText, List.map_pmap, PrintedStmt.stmtText]

end Files

/-- **Parsing undoes printing**: printed leases are read as they are, with nothing left over. -/
theorem parseLeases_print (hplatform : platform.Documented) {printed : List PrintedLease}
    (h : ∀ p ∈ printed, p.Valid platform) (last : Gap) :
    (parseLeases platform).run ((printed.map PrintedLease.text).flatten ++ last.val) =
      some (printed.map PrintedLease.result, []) := by
  let file : FileText platform :=
    ⟨(printed.pmap (PrintedLease.leaseText hplatform) h).map Block.supported, last⟩
  have htext : (printed.map PrintedLease.text).flatten ++ last.val = file.text := by
    simp [file, FileText.text, blocksText, List.map_pmap, Block.text,
      PrintedLease.leaseText_text]
  obtain ⟨rest, hrun, hrest⟩ := run_parseLeases file
  rw [htext, hrun, hrest (unread_map_supported _), readable_map_supported]
  simp [List.map_pmap, PrintedLease.leaseText_lease]

/-! ## A printed file -/

lemma asciiPlatform_documented : asciiPlatform.Documented :=
  ⟨Chrono.limits_documented, fun _ _ => rfl⟩

/-- The style of the files that `dhclient` writes. -/
def plainStyle (quoted : Bool) : Style :=
  ⟨oneBlank, oneBlank, oneBlank, oneBlank, 0, quoted⟩

/-- A line end and an indentation. -/
def indented : Gap := ⟨['\n', ' ', ' '], by decide⟩

/-- A lease with a keyword, a brace and a semicolon in a value, its last statement first. -/
def sampleLease : PrintedLease where
  lease :=
    { interface := some "wan0", expire := some nearMoment
      options := [("host-name", "lease \x7b;"), ("routers", "192.168.1.1")] }
  before := noGap
  beforeBrace := oneSpace
  stmts :=
    [⟨indented, plainStyle false, .expire nearMoment⟩,
      ⟨indented, plainStyle true, .option "host-name" "lease \x7b;"⟩,
      ⟨indented, plainStyle false, .interface "wan0"⟩,
      ⟨indented, plainStyle false, .option "routers" "192.168.1.1"⟩]
  beforeEnd := lineEnd

lemma sampleLease_valid : sampleLease.Valid asciiPlatform where
  arranged := by decide
  printable := by
    simp only [sampleLease, List.forall_mem_cons, List.not_mem_nil, false_imp_iff, implies_true,
      and_true]
    refine ⟨⟨by decide, by decide⟩, ⟨by decide, by decide, by decide, by decide⟩,
      ⟨by decide, by decide⟩, by decide, by decide, by decide, by decide, by decide, ?_⟩
    decide

/-- A lease without options, with its address last. -/
def bareLease : PrintedLease where
  lease :=
    { interface := some "eth0", fixedAddress := some "10.0.0.5", expire := some nearMoment
      options := [] }
  before := lineEnd
  beforeBrace := oneSpace
  stmts :=
    [⟨indented, plainStyle true, .interface "eth0"⟩,
      ⟨indented, plainStyle false, .expire nearMoment⟩,
      ⟨indented, plainStyle false, .fixedAddress "10.0.0.5"⟩]
  beforeEnd := lineEnd

lemma bareLease_valid : bareLease.Valid asciiPlatform where
  arranged := by decide
  printable := by
    simp only [bareLease, List.forall_mem_cons, List.not_mem_nil, false_imp_iff, implies_true,
      and_true]
    exact ⟨⟨by decide, by decide⟩, ⟨by decide, by decide⟩, by decide, by decide⟩

/-- The printed leases are read back. -/
theorem sampleLease_read_back :
    (parseLeases asciiPlatform).run (sampleLease.text ++ bareLease.text ++ ['\n']) =
      some ([sampleLease.lease, bareLease.lease], []) := by
  have hread := @parseLeases_print asciiPlatform asciiPlatform_documented [sampleLease, bareLease]
    (by simpa using ⟨sampleLease_valid, bareLease_valid⟩) lineEnd
  have hsample : sampleLease.result = sampleLease.lease := by decide
  have hbare : bareLease.result = bareLease.lease := by decide
  simpa [hsample, hbare, lineEnd] using hread

end Dumbarp.IscDhclient
