/-
The blocks of lease files, as the parser sees them.

A statement is supported if the parser reads its text, whatever follows, and unsupported if the
parser rejects it, whatever follows.  A block made of supported statements is read as one
lease.  A block with an unsupported statement is rejected, and the repetition over the blocks
of a file ends there: what stands behind it is left over.
-/
import Dumbarp.IscDhclient.LeaseParser

namespace Dumbarp.IscDhclient

open Parse

variable {platform : Platform}

/-! ## Statements -/

/-- The words that statements begin with. -/
def keywords : List String :=
  ["interface", "fixed-address", "option", "renew", "rebind", "expire"]

/-- The alternatives of a statement, each with the word that it begins with. -/
def alternatives (platform : Platform) : List (String × Parser LeaseStmt) :=
  [("interface", LeaseStmt.interface <$> parseInterface),
    ("fixed-address", LeaseStmt.fixedAddress <$> parseFixedAddress platform),
    ("option", (fun kv => LeaseStmt.option kv.1 kv.2) <$> parseOption platform),
    ("renew", LeaseStmt.renew <$> parseRenew platform),
    ("rebind", LeaseStmt.rebind <$> parseRebind platform),
    ("expire", LeaseStmt.expire <$> parseExpire platform)]

lemma parseAlternatives_eq : parseAlternatives platform = choice (alternatives platform) := by
  rw [alternatives, choice_cons, choice_cons, choice_cons, choice_cons, choice_cons,
    choice_singleton]
  rfl

lemma mem_keywords : ∀ alt ∈ alternatives platform, alt.1 ∈ keywords :=
  fun _ halt => List.mem_map_of_mem (f := Prod.fst) halt

lemma begins_alternatives : ∀ alt ∈ alternatives platform, Begins alt.1 alt.2 := by
  simp only [alternatives, List.forall_mem_cons, List.not_mem_nil, false_imp_iff, implies_true,
    and_true]
  exact ⟨begins_tag.map, begins_tag.map, begins_tag.map, begins_tag.map, begins_tag.map,
    begins_tag.map⟩

/-- No keyword begins with another one. -/
lemma keywords_apart :
    ∀ a ∈ keywords, ∀ b ∈ keywords, a.toList <+: b.toList → a = b := by
  decide

/-- A text that begins with one keyword begins with no other. -/
lemma keyword_unique {k word : String} (hk : k ∈ keywords) (hword : word ∈ keywords)
    {t : List Char} (h : k.toList <+: word.toList ++ t) : k = word := by
  rcases List.prefix_or_prefix_of_prefix h (List.prefix_append _ _) with hle | hle
  · exact keywords_apart _ hk _ hword hle
  · exact (keywords_apart _ hword _ hk hle).symm

/-- No alternative matches a text that begins with no keyword. -/
lemma run_parseAlternatives_of_not_keyword {input : List Char}
    (h : ∀ k ∈ keywords, ¬ k.toList <+: input) :
    (parseAlternatives platform).run input = none := by
  rw [parseAlternatives_eq]
  exact run_choice_eq_none begins_alternatives
    fun alt halt => h alt.1 (mem_keywords alt halt)

/-- **A text that begins with a keyword** is left to the alternative of this keyword. -/
lemma run_parseAlternatives_keyword {word : String} {p : Parser LeaseStmt} {t : List Char}
    (h : (word, p) ∈ alternatives platform) :
    (parseAlternatives platform).run (word.toList ++ t) = p.run (word.toList ++ t) := by
  have hnodup : ((alternatives platform).map Prod.fst).Nodup :=
    (by decide : keywords.Nodup)
  rw [parseAlternatives_eq]
  refine run_choice begins_alternatives (List.mem_map_of_mem h) fun alt halt hprefix => ?_
  have hword : alt.1 = word := keyword_unique (mem_keywords _ halt) (mem_keywords _ h) hprefix
  rw [List.inj_on_of_nodup_map hnodup halt h hword]

/-- Blanks and line ends, between statements and between blocks. -/
abbrev Gap : Type := { cs : List Char // ∀ c ∈ cs, isSpace c = true }

/-- No gap. -/
def noGap : Gap := ⟨[], by simp⟩

/-- A gap of one blank. -/
def oneSpace : Gap := ⟨[' '], by decide⟩

/-- A gap of one line end. -/
def lineEnd : Gap := ⟨['\n'], by decide⟩

/-- A statement is parsed behind the gap before it. -/
lemma run_parseStmt (gap : Gap) {t : List Char} (h : Stops isSpace t) :
    (parseStmt platform).run (gap.val ++ t) = (do
      let stmt ← parseAlternatives platform
      char ';'
      return stmt : Parser LeaseStmt).run t :=
  run_bind_of_some (run_multispace0 gap.property h)

/-- At the end of a block no statement follows. -/
lemma run_parseStmt_end (gap : Gap) {rest : List Char} :
    (parseStmt platform).run (gap.val ++ '\x7d' :: rest) = none := by
  rw [run_parseStmt gap (by simpa using by decide)]
  refine run_bind_of_none (run_parseAlternatives_of_not_keyword ?_)
  simp [keywords]

/-- A supported statement, with the gap before it and its semicolon. -/
structure StmtText (platform : Platform) where
  text : List Char
  stmt : LeaseStmt
  reads : Reads (parseStmt platform) text stmt

/-- A statement that the parser does not support: whatever follows, it is no statement to the
parser.  It is not the end of the block. -/
structure BadText (platform : Platform) where
  gap : Gap
  first : Char
  tail : List Char
  notSpace : isSpace first = false
  notEnd : first ≠ '\x7d'
  rejects : Rejects (parseStmt platform) (gap.val ++ first :: tail)

/-- The text with the gap before it. -/
def BadText.text (b : BadText platform) : List Char := b.gap.val ++ b.first :: b.tail

/-- No keyword contains a semicolon. -/
lemma semicolon_not_mem_keyword : ∀ k ∈ keywords, ';' ∉ k.toList := by
  decide

/-- A statement that begins with no keyword. -/
def unknownText (platform : Platform) (gap : Gap) (first : Char) (body : List Char)
    (notSpace : isSpace first = false) (notEnd : first ≠ '\x7d')
    (h : ∀ k ∈ keywords, ¬ k.toList <+: first :: (body ++ [';'])) : BadText platform where
  gap := gap
  first := first
  tail := body ++ [';']
  notSpace := notSpace
  notEnd := notEnd
  rejects rest := by
    have hother : ∀ k ∈ keywords, ¬ k.toList <+: first :: (body ++ [';'] ++ rest) := by
      intro k hk hprefix
      have htext : first :: (body ++ [';']) <+: first :: (body ++ [';'] ++ rest) :=
        ⟨rest, rfl⟩
      rcases List.prefix_or_prefix_of_prefix hprefix htext with hle | hle
      · exact h k hk hle
      · -- the text goes up to its semicolon, which no keyword has
        exact semicolon_not_mem_keyword k hk (hle.subset (by simp))
    rw [List.append_assoc, List.cons_append, run_parseStmt gap (stops_cons.mpr notSpace)]
    exact run_bind_of_none (run_parseAlternatives_of_not_keyword hother)

/-- The text of statements in a row. -/
def stmtsText (stmts : List (StmtText platform)) : List Char := (stmts.map StmtText.text).flatten

lemma StmtText.text_ne_nil (s : StmtText platform) : s.text ≠ [] := by
  intro h
  have hread := s.reads ['\x7d']
  rw [h] at hread
  exact absurd (hread.symm.trans (run_parseStmt_end noGap)) (by simp)

/-- The statements of a block are read up to a place where the parser finds none. -/
lemma run_many0_parseStmt {stmts : List (StmtText platform)} {rest : List Char}
    (hrest : (parseStmt platform).run rest = none) :
    (many0 (parseStmt platform)).run (stmtsText stmts ++ rest) =
      some (stmts.map StmtText.stmt, rest) := by
  have hread : ∀ item ∈ stmts.map fun s => (s.text, s.stmt),
      Reads (parseStmt platform) item.1 item.2 := by
    intro item hitem
    obtain ⟨s, -, rfl⟩ := List.mem_map.mp hitem
    exact s.reads
  have hne : ∀ item ∈ stmts.map fun s => (s.text, s.stmt), item.1 ≠ [] := by
    intro item hitem
    obtain ⟨s, -, rfl⟩ := List.mem_map.mp hitem
    exact s.text_ne_nil
  have h := run_many0_flatten hread hne hrest
  rwa [List.map_map, List.map_map] at h

/-! ## Blocks -/

/-- The text of a block up to its brace. -/
def opening (before beforeBrace : Gap) : List Char :=
  before.val ++ ("lease".toList ++ (beforeBrace.val ++ ['\x7b']))

/-- A block is parsed behind its brace. -/
lemma run_parseLease (before beforeBrace : Gap) {t : List Char} :
    (parseLease platform).run (opening before beforeBrace ++ t) = (do
      let stmts ← many0 (parseStmt platform)
      let _ ← multispace0
      char '\x7d'
      return stmts.foldl Lease.add {} : Parser Lease).run t := by
  have hl : Stops isSpace ("lease".toList ++ (beforeBrace.val ++ '\x7b' :: t)) := by
    simpa using by decide
  have hbrace : Stops isSpace ('\x7b' :: t) := by simpa using by decide
  have htext : opening before beforeBrace ++ t =
      before.val ++ ("lease".toList ++ (beforeBrace.val ++ '\x7b' :: t)) := by
    simp [opening]
  rw [htext]
  refine (run_bind_of_some (run_multispace0 before.property hl)).trans ?_
  refine (run_bind_of_some run_tag).trans ?_
  refine (run_bind_of_some (run_multispace0 beforeBrace.property hbrace)).trans ?_
  exact run_bind_of_some run_char

/-- A block made of supported statements. -/
structure LeaseText (platform : Platform) where
  before : Gap
  beforeBrace : Gap
  stmts : List (StmtText platform)
  beforeEnd : Gap

/-- The characters of the block. -/
def LeaseText.text (b : LeaseText platform) : List Char :=
  opening b.before b.beforeBrace ++ (stmtsText b.stmts ++ (b.beforeEnd.val ++ ['\x7d']))

/-- The lease that the block says. -/
def LeaseText.lease (b : LeaseText platform) : Lease :=
  (b.stmts.map StmtText.stmt).foldl Lease.add {}

/-- **A block of supported statements** is read as its lease. -/
theorem LeaseText.reads (b : LeaseText platform) :
    Reads (parseLease platform) b.text b.lease := by
  intro rest
  have hend : Stops isSpace ('\x7d' :: rest) := by simpa using by decide
  have htext : b.text ++ rest = opening b.before b.beforeBrace ++
      (stmtsText b.stmts ++ (b.beforeEnd.val ++ '\x7d' :: rest)) := by
    simp [LeaseText.text]
  rw [htext, run_parseLease]
  refine (run_bind_of_some (run_many0_parseStmt (run_parseStmt_end b.beforeEnd))).trans ?_
  refine (run_bind_of_some (run_multispace0 b.beforeEnd.property hend)).trans ?_
  exact run_bind_of_some run_char

/-- A block with an unsupported statement, behind supported ones and before anything. -/
structure BadLease (platform : Platform) where
  before : Gap
  beforeBrace : Gap
  stmts : List (StmtText platform)
  bad : BadText platform
  after : List Char

/-- The characters of the block. -/
def BadLease.text (b : BadLease platform) : List Char :=
  opening b.before b.beforeBrace ++ (stmtsText b.stmts ++ (b.bad.text ++ (b.after ++ ['\x7d'])))

/-- **A block with an unsupported statement** is rejected. -/
theorem BadLease.rejects (b : BadLease platform) : Rejects (parseLease platform) b.text := by
  intro rest
  have htext : b.text ++ rest = opening b.before b.beforeBrace ++ (stmtsText b.stmts ++
      (b.bad.gap.val ++ b.bad.first :: (b.bad.tail ++ (b.after ++ '\x7d' :: rest)))) := by
    simp [BadLease.text, BadText.text]
  have hbad : (parseStmt platform).run
      (b.bad.gap.val ++ b.bad.first :: (b.bad.tail ++ (b.after ++ '\x7d' :: rest))) = none := by
    simpa using b.bad.rejects (b.after ++ '\x7d' :: rest)
  have hfirst : Stops isSpace (b.bad.first :: (b.bad.tail ++ (b.after ++ '\x7d' :: rest))) := by
    simpa using b.bad.notSpace
  rw [htext, run_parseLease]
  refine (run_bind_of_some (run_many0_parseStmt hbad)).trans ?_
  -- the brace that ends a block is looked for where the statement begins
  refine (run_bind_of_some (run_multispace0 b.bad.gap.property hfirst)).trans ?_
  exact run_bind_of_none (run_char_of_ne b.bad.notEnd)

/-! ## Files -/

/-- A block of a lease file. -/
inductive Block (platform : Platform)
  | supported (b : LeaseText platform)
  | unsupported (b : BadLease platform)

/-- The characters of the block. -/
def Block.text : Block platform → List Char
  | supported b => b.text
  | unsupported b => b.text

/-- The characters of blocks in a row. -/
def blocksText (blocks : List (Block platform)) : List Char := (blocks.map Block.text).flatten

/-- The blocks before the first unsupported one. -/
def readable : List (Block platform) → List (LeaseText platform)
  | .supported b :: blocks => b :: readable blocks
  | _ => []

/-- The blocks from the first unsupported one on. -/
def unread : List (Block platform) → List (Block platform)
  | .supported _ :: blocks => unread blocks
  | blocks => blocks

lemma readable_map_supported (bs : List (LeaseText platform)) :
    readable (bs.map Block.supported) = bs := by
  induction bs with
  | nil => rfl
  | cons b bs ih => rw [List.map_cons, readable, ih]

lemma unread_map_supported (bs : List (LeaseText platform)) :
    unread (bs.map Block.supported) = [] := by
  induction bs with
  | nil => rfl
  | cons b bs ih => exact ih

lemma blocksText_eq (blocks : List (Block platform)) :
    blocksText blocks =
      ((readable blocks).map LeaseText.text).flatten ++ blocksText (unread blocks) := by
  induction blocks with
  | nil => rfl
  | cons block blocks ih =>
    cases block with
    | supported b =>
      show b.text ++ blocksText blocks = _
      rw [ih]
      simp [readable, unread]
    | unsupported b => simp [readable, unread]

/-- A lease file. -/
structure FileText (platform : Platform) where
  blocks : List (Block platform)
  last : Gap

/-- The characters of the file. -/
def FileText.text (file : FileText platform) : List Char :=
  blocksText file.blocks ++ file.last.val

/-- At the end of a file no block follows. -/
lemma run_parseLease_end (last : Gap) : (parseLease platform).run last.val = none := by
  have h := @run_multispace0 [] last.val last.property stops_nil
  rw [List.append_nil] at h
  refine (run_bind_of_some h).trans (run_bind_of_none (run_tag_eq_none ?_))
  decide

/-- The repetition ends at the first unsupported block, or at the end of the file. -/
lemma run_parseLease_unread (file : FileText platform) :
    (parseLease platform).run (blocksText (unread file.blocks) ++ file.last.val) = none := by
  generalize file.blocks = blocks
  induction blocks with
  | nil => exact run_parseLease_end file.last
  | cons block blocks ih =>
    cases block with
    | supported b => exact ih
    | unsupported b =>
      show (parseLease platform).run (b.text ++ blocksText blocks ++ file.last.val) = none
      rw [List.append_assoc]
      exact b.rejects _

/-- **What is read of a file**: the leases of the blocks before the first unsupported one, and
nothing is left over if there is none. -/
theorem run_parseLeases (file : FileText platform) :
    ∃ rest, (parseLeases platform).run file.text =
        some ((readable file.blocks).map LeaseText.lease, rest) ∧
      (unread file.blocks = [] → rest = []) := by
  have hread : ∀ item ∈ (readable file.blocks).map fun b => (b.text, b.lease),
      Reads (parseLease platform) item.1 item.2 := by
    intro item hitem
    obtain ⟨b, -, rfl⟩ := List.mem_map.mp hitem
    exact b.reads
  have hne : ∀ item ∈ (readable file.blocks).map fun b => (b.text, b.lease), item.1 ≠ [] := by
    intro item hitem
    obtain ⟨b, -, rfl⟩ := List.mem_map.mp hitem
    simp [LeaseText.text, opening]
  have hmany := run_many0_flatten hread hne (run_parseLease_unread file)
  rw [List.map_map, List.map_map] at hmany
  rw [FileText.text, blocksText_eq, List.append_assoc]
  refine ⟨(blocksText (unread file.blocks) ++ file.last.val).dropWhile isSpace,
    run_bind_of_some hmany, fun hnil => ?_⟩
  rw [hnil]
  simpa [blocksText] using file.last.property

end Dumbarp.IscDhclient
