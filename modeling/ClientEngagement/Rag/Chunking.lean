import ClientEngagement.Agents.DraftChecks
import ClientEngagement.Agents.DraftParsers

/-!
# Chunking a report

Model of `rag/chunking.py`. One pass over the sentences fills a buffer and cuts it at the target size and where
a section begins; the last sentence of a full chunk is carried into the next one when it is short.
`chunkReport_eq` says what the pass packs: spans of sentences, each with the sentence that leads into it.
`well_chunked_iff` says when no chunk is made of such a sentence alone.
-/

namespace ClientEngagement.Rag
open Agents (anyCaseText ends_stripOf stripOf stripOf_eq_self)
open Privacy (wordBoundary)
open Rules (isSpace)

/-- `SECTION_LABELS`. -/
def sectionLabels : List String :=
  ["Executive Summary", "Fixed Income", "Money Market Fund", "Money Markets", "Equities", "Real Estate",
    "Eurobonds", "Exchange Rate", "Inflation", "Weekly Highlights", "Investment Updates", "Recommendation"]

def targetChars : ℕ := 1100
def minChars : ℕ := 200

structure ReportChunk where
  ordinal : ℕ
  text : List Char
  metadata : Dict String Json := .empty

/-! ## Sentences -/

/-- `_LABEL_RE`, for one of the labels. -/
def labelPattern (tables : Unicode) (label : String) : Regex Char :=
  .seqs [.start, .star (.one isSpace), anyCaseText label.toLower, wordBoundary tables, .star (.one isSpace),
    .opt (.lit [':'])]

/-- `str.title` of the characters a label may match, after a letter or not. -/
def titleFrom (inside : Bool) : List Char → List Char
  | [] => []
  | c :: text =>
    let cased :=
      if inside then
        if c = '\u0130' then ['i', '\u0307'] else if c = '\u212a' then ['k'] else [c.toLower]
      else if c = '\u0131' then ['I'] else if c = '\u017f' then ['S'] else [c.toUpper]
    cased ++ titleFrom (c ≠ ' ') text

/-- `_section_of`. -/
def sectionOf (tables : Unicode) (sentence : List Char) : Option String :=
  (sectionLabels.find? fun label => Regex.matchesPrefix (labelPattern tables label) sentence).map fun found =>
    let label := String.ofList (titleFrom false ((sentence.dropWhile isSpace).take found.length))
    if label = "Money Market Fund" then "Money Markets" else label

/-- `re.split`: the text between the matches. -/
def splitAt (r : Regex Char) (text : List Char) : List (List Char) :=
  ((Regex.pieces r text).splitOnP fun
    | .kept _ => false
    | .matched _ => true).map Regex.source

/-- `_SENTENCE_SPLIT`. -/
def sentenceSplit : Regex Char := .seq (.behind [fun c => c ∈ ['.', ';', ':']]) (.plus (.one isSpace))

/-- `_sentences`. -/
def sentences (pageText : List Char) : List (List Char) :=
  (pageText.splitOn '\n').flatMap fun para =>
    ((splitAt sentenceSplit (stripOf isSpace para)).map (stripOf isSpace)).filter (· ≠ [])

/-! ## The pass -/

/-- The variables of `chunk_report`; `label` is its `section`. -/
structure Packing where
  chunks : List ReportChunk := []
  label : Option String := none
  buf : List (List Char) := []
  bufPage : ℕ := 1
  ordinal : ℕ := 0

def chunkMetadata (page : ℕ) (label issue : Option String) : Dict String Json :=
  .ofList ([("page", .num page)] ++
    (label.filter (· ≠ "")).toList.map (fun label => ("section", .str label)) ++
    (issue.filter (· ≠ "")).toList.map fun issue => ("issue", .str issue))

section
variable (tables : Unicode) (issue : Option String)

def Packing.flush (p : Packing) : Packing :=
  let text := stripOf isSpace ([' '].intercalate p.buf)
  if text = [] then p
  else
    { p with
      chunks := p.chunks ++ [⟨p.ordinal, text, chunkMetadata p.bufPage p.label issue⟩]
      ordinal := p.ordinal + 1
      buf := [] }

/-- A label that is found makes a new section, which ends the chunk so far. -/
def Packing.enter (found : Option String) (pageNo : ℕ) (p : Packing) : Packing :=
  let p := if found.isSome ∧ found ≠ p.label ∧ p.buf ≠ [] then p.flush issue else p
  let p := if found.isSome then { p with label := found } else p
  if p.buf = [] then { p with bufPage := pageNo } else p

/-- Takes a sentence in; a full chunk is cut and its last sentence carried on when it is short. -/
def Packing.store (pageNo : ℕ) (sentence : List Char) (p : Packing) : Packing :=
  let p := { p with buf := p.buf ++ [sentence] }
  if targetChars ≤ (p.buf.map fun s => s.length + 1).sum then
    let carry := if sentence.length < minChars then sentence else []
    let p := p.flush issue
    if carry ≠ [] then { p with buf := [carry], bufPage := pageNo } else p
  else p

/-- One sentence of a page. -/
def packSentence (pageNo : ℕ) (p : Packing) (sentence : List Char) : Packing :=
  (p.enter issue (sectionOf tables sentence) pageNo).store issue pageNo sentence

def chunkReport (pages : List (List Char)) : List ReportChunk :=
  (((pages.zipIdx 1).foldl (fun p (pageText, pageNo) =>
    (sentences pageText).foldl (packSentence tables issue pageNo) p) {}).flush issue).chunks

end

/-! ## Spans of sentences -/

/-- A sentence with its page and the section it was read under. -/
structure Sentence where
  page : ℕ
  label : Option String
  text : List Char

/-- The sentences in order, under the last label that was read. -/
def labelled (tables : Unicode) : Option String → List (ℕ × List Char) → List Sentence
  | _, [] => []
  | current, (page, text) :: rest =>
    let label := (sectionOf tables text).or current
    ⟨page, label, text⟩ :: labelled tables label rest

/-- The sentences of a report with their pages. -/
def pagedSentences (pages : List (List Char)) : List (ℕ × List Char) :=
  (pages.zipIdx 1).flatMap fun (pageText, pageNo) => (sentences pageText).map (pageNo, ·)

def reportSentences (tables : Unicode) (pages : List (List Char)) : List Sentence :=
  labelled tables none (pagedSentences pages)

/-- The sentences of one chunk: the one it takes over from the chunk before, if any, and its own. -/
structure Span where
  overlap : Option Sentence := none
  fresh : List Sentence := []

def Span.sentences (span : Span) : List Sentence := span.overlap.toList ++ span.fresh

def Span.add (span : Span) (s : Sentence) : Span := { span with fresh := span.fresh ++ [s] }

@[simp] lemma Span.sentences_add (span : Span) (s : Sentence) :
    (span.add s).sentences = span.sentences ++ [s] := by
  simp [Span.sentences, Span.add]

/-- What follows a full span that ends with `s`. -/
def Span.after (s : Sentence) : Span := if s.text.length < minChars then ⟨some s, []⟩ else ⟨none, []⟩

/-- The length of the sentences with a blank after each. -/
def width (l : List Sentence) : ℕ := (l.map fun s => s.text.length + 1).sum

/-- What is left of a span when `s` comes next: nothing, if `s` begins a section. -/
def Span.before (span : Span) (s : Sentence) : Span :=
  if ∀ last ∈ span.sentences.getLast?, last.label = s.label then span else {}

/-- The spans that a sentence ends. -/
def Span.ended (span : Span) (s : Sentence) : List Span :=
  if ∀ last ∈ span.sentences.getLast?, last.label = s.label then [] else [span]

/-- The spans that are full once they hold `s`. -/
def Span.cut (span : Span) : List Span := if targetChars ≤ width span.sentences then [span] else []

/-- What is gathered on after a span that ends with `s` was cut or not. -/
def Span.next (span : Span) (s : Sentence) : Span :=
  if targetChars ≤ width span.sentences then .after s else span

/-- The spans of the sentences to come. -/
def pack (span : Span) : List Sentence → List Span
  | [] => if span.sentences = [] then [] else [span]
  | s :: rest =>
    let grown := (span.before s).add s
    span.ended s ++ grown.cut ++ pack (grown.next s) rest

/-- The spans of a report. -/
def reportSpans (tables : Unicode) (pages : List (List Char)) : List Span :=
  pack {} (reportSentences tables pages)

/-- The text of a span. -/
def Span.text (span : Span) : List Char := [' '].intercalate (span.sentences.map Sentence.text)

/-- The chunk of a span: its page and its section are those of its first sentence. -/
def Span.chunk (issue : Option String) (ordinal : ℕ) (span : Span) : ReportChunk where
  ordinal := ordinal
  text := span.text
  metadata := chunkMetadata ((span.sentences.head?.map Sentence.page).getD 1)
    (span.sentences.head?.bind Sentence.label) issue

/-! ## Text without outer space -/

/-- Some text that neither begins nor ends with what is stripped. -/
structure Trimmed (p : Char → Bool) (text : List Char) : Prop where
  some_text : text ≠ []
  first : ∀ c ∈ text.head?, p c = false
  last : ∀ c ∈ text.getLast?, p c = false

lemma Trimmed.stripOf {p : Char → Bool} {text : List Char} (trimmed : Trimmed p text) : stripOf p text = text :=
  stripOf_eq_self trimmed.first trimmed.last

lemma trimmed_stripOf {p : Char → Bool} {text : List Char} (some_text : stripOf p text ≠ []) :
    Trimmed p (stripOf p text) where
  some_text := some_text
  first := (ends_stripOf p text).1
  last := (ends_stripOf p text).2

lemma trimmed_of_mem_sentences {pageText text : List Char} (mem : text ∈ sentences pageText) :
    Trimmed isSpace text := by
  obtain ⟨para, _, kept⟩ := List.mem_flatMap.mp mem
  obtain ⟨cut, some_text⟩ := List.mem_filter.mp kept
  obtain ⟨part, _, rfl⟩ := List.mem_map.mp cut
  exact trimmed_stripOf (by simpa using some_text)

lemma intercalate_cons_cons (c : Char) (text next : List Char) (rest : List (List Char)) :
    [c].intercalate (text :: next :: rest) = text ++ [c] ++ [c].intercalate (next :: rest) := by
  simp [List.intercalate, List.intersperse]

/-- Texts joined with one character begin and end as the first and the last of them. -/
lemma trimmed_join {p : Char → Bool} {texts : List (List Char)} (some_text : texts ≠ [])
    (trimmed : ∀ text ∈ texts, Trimmed p text) (c : Char) : Trimmed p ([c].intercalate texts) := by
  induction texts with
  | nil => exact absurd rfl some_text
  | cons text rest ih =>
    have here := trimmed text (.head _)
    cases rest with
    | nil => simpa using here
    | cons next rest =>
      have later := ih (by simp) (fun t mem => trimmed t (.tail _ mem))
      rw [intercalate_cons_cons]
      refine ⟨by simp [here.some_text], ?_, ?_⟩
      · intro x first
        apply here.first x
        rw [List.append_assoc, List.head?_append_of_ne_nil _ here.some_text] at first
        exact first
      · intro x last
        apply later.last x
        rw [List.getLast?_append_of_ne_nil _ later.some_text] at last
        exact last

/-! ## The pass packs the spans -/

variable {tables : Unicode} {issue : Option String} {p : Packing} {span : Span}

/-- The chunks of spans, numbered from `n`. -/
def chunksFrom (issue : Option String) (n : ℕ) (spans : List Span) : List ReportChunk :=
  (spans.zipIdx n).map fun (span, i) => span.chunk issue i

/-- The buffer holds the span. -/
structure Packing.Holds (p : Packing) (span : Span) : Prop where
  buf : p.buf = span.sentences.map Sentence.text
  trimmed : ∀ s ∈ span.sentences, Trimmed isSpace s.text
  page : ∀ s ∈ span.sentences.head?, p.bufPage = s.page
  label : ∀ s ∈ span.sentences, s.label = p.label

lemma Packing.Holds.nothing (empty : p.buf = []) : p.Holds {} :=
  ⟨empty, by simp [Span.sentences], by simp [Span.sentences], by simp [Span.sentences]⟩

lemma Packing.Holds.buf_eq_nil (holds : p.Holds span) : p.buf = [] ↔ span.sentences = [] := by
  rw [holds.buf, List.map_eq_nil_iff]

lemma flush_of_nil (empty : p.buf = []) : p.flush issue = p := by
  rw [Packing.flush, empty]
  rfl

/-- A flush of a span makes its chunk. -/
lemma Packing.Holds.flush (holds : p.Holds span) (some_sentence : span.sentences ≠ []) :
    p.flush issue =
      { p with
        chunks := p.chunks ++ [span.chunk issue p.ordinal]
        ordinal := p.ordinal + 1
        buf := [] } := by
  have trimmed : Trimmed isSpace ([' '].intercalate p.buf) := by
    rw [holds.buf]
    apply trimmed_join (mt List.map_eq_nil_iff.mp some_sentence)
    intro text mem
    obtain ⟨s, s_mem, rfl⟩ := List.mem_map.mp mem
    exact holds.trimmed s s_mem
  obtain ⟨first, rest, list⟩ := List.exists_cons_of_ne_nil some_sentence
  have page := holds.page first (by rw [list]; rfl)
  have label := holds.label first (by rw [list]; exact List.mem_cons_self)
  rw [Packing.flush, trimmed.stripOf, if_neg trimmed.some_text]
  simp [Span.chunk, Span.text, list, holds.buf, page, label]

lemma chunksFrom_append (n : ℕ) (spans spans' : List Span) :
    chunksFrom issue n (spans ++ spans') =
      chunksFrom issue n spans ++ chunksFrom issue (n + spans.length) spans' := by
  simp [chunksFrom, List.zipIdx_append]

/-- A section begins with the sentence exactly when its label differs from that of the buffer. -/
lemma Packing.Holds.begins_iff (holds : p.Holds span) (found : Option String) :
    (found.isSome ∧ found ≠ p.label ∧ p.buf ≠ []) ↔
      ¬ ∀ last ∈ span.sentences.getLast?, last.label = found.or p.label := by
  rw [Ne, Ne, holds.buf_eq_nil]
  cases e : span.sentences.getLast? with
  | none => simp [List.getLast?_eq_none_iff.mp e]
  | some last =>
    have label := holds.label last (List.mem_of_getLast? e)
    have some_sentence : span.sentences ≠ [] := by
      rintro empty
      simp [empty] at e
    cases found with
    | none => simp [label]
    | some found => simp [label, some_sentence, eq_comm]

/-- What is left of the buffer at a sentence. -/
lemma Packing.Holds.enter (issue : Option String) (holds : p.Holds span) (found : Option String) {s : Sentence}
    (label : s.label = found.or p.label) :
    ∃ p', p.enter issue found s.page = p' ∧ p'.Holds (span.before s) ∧
      p'.chunks = p.chunks ++ chunksFrom issue p.ordinal (span.ended s) ∧
      p'.ordinal = p.ordinal + (span.ended s).length ∧ p'.label = s.label ∧
      ((span.before s).sentences = [] → p'.bufPage = s.page) := by
  by_cases begins : found.isSome ∧ found ≠ p.label ∧ p.buf ≠ []
  · have other : ¬ ∀ last ∈ span.sentences.getLast?, last.label = s.label := by
      rw [label]
      exact (holds.begins_iff found).mp begins
    have some_sentence : span.sentences ≠ [] := mt holds.buf_eq_nil.mpr begins.2.2
    have entered : p.enter issue found s.page =
        { p with
          chunks := p.chunks ++ [span.chunk issue p.ordinal]
          label := found
          buf := []
          bufPage := s.page
          ordinal := p.ordinal + 1 } := by
      simp [Packing.enter, begins, holds.flush some_sentence]
    obtain ⟨name, rfl⟩ := Option.isSome_iff_exists.mp begins.1
    rw [entered, Span.ended, if_neg other, Span.before, if_neg other]
    exact ⟨_, rfl, .nothing rfl, rfl, rfl, label.symm, fun _ => rfl⟩
  · have same : ∀ last ∈ span.sentences.getLast?, last.label = s.label := by
      by_contra other
      rw [label] at other
      exact begins ((holds.begins_iff found).mpr other)
    have entered : p.enter issue found s.page =
        { p with label := s.label, bufPage := if p.buf = [] then s.page else p.bufPage } := by
      rw [Packing.enter, if_neg begins, label]
      cases found <;> simp <;> split_ifs <;> rfl
    rw [entered, Span.ended, if_pos same, Span.before, if_pos same]
    refine ⟨_, rfl, ⟨holds.buf, holds.trimmed, ?_, ?_⟩, (List.append_nil _).symm, rfl, rfl, ?_⟩
    · intro first first_mem
      have some_sentence : p.buf ≠ [] := by
        rw [Ne, holds.buf_eq_nil]
        rintro empty
        simp [empty] at first_mem
      simp only [if_neg some_sentence]
      exact holds.page first first_mem
    · intro t mem
      have all := holds.label t mem
      have last := List.getLast?_eq_some_getLast (List.ne_nil_of_mem mem)
      have here := holds.label _ (List.getLast_mem (List.ne_nil_of_mem mem))
      rw [all, ← here]
      exact same _ last
    · intro empty
      simp only [if_pos (holds.buf_eq_nil.mpr empty)]

/-- What a sentence makes of a buffer it may join. -/
lemma Packing.Holds.store (issue : Option String) (holds : p.Holds span) {s : Sentence}
    (trimmed : Trimmed isSpace s.text) (label : p.label = s.label)
    (page : span.sentences = [] → p.bufPage = s.page) :
    ∃ p', p.store issue s.page s.text = p' ∧
      p'.Holds ((span.add s).next s) ∧
      p'.chunks = p.chunks ++ chunksFrom issue p.ordinal (span.add s).cut ∧
      p'.ordinal = p.ordinal + (span.add s).cut.length ∧ p'.label = s.label := by
  have grown : ({ p with buf := p.buf ++ [s.text] } : Packing).Holds (span.add s) := by
    refine ⟨by simp [holds.buf], ?_, ?_, ?_⟩
    · intro t mem
      rw [Span.sentences_add, List.mem_append, List.mem_singleton] at mem
      rcases mem with old | rfl
      · exact holds.trimmed t old
      · exact trimmed
    · intro first mem
      rw [Span.sentences_add] at mem
      rcases List.eq_nil_or_concat span.sentences with empty | some_sentence
      · rw [empty] at mem
        cases mem
        exact page empty
      · apply holds.page
        rwa [List.head?_append_of_ne_nil] at mem
        obtain ⟨_, _, e⟩ := some_sentence
        simp [e]
    · intro t mem
      rw [Span.sentences_add, List.mem_append, List.mem_singleton] at mem
      rcases mem with old | rfl
      · exact holds.label t old
      · exact label.symm
  have wide : ((p.buf ++ [s.text]).map fun t => t.length + 1).sum = width (span.add s).sentences := by
    have buf : p.buf ++ [s.text] = (span.add s).sentences.map Sentence.text := grown.buf
    rw [buf, width, List.map_map]
    rfl
  have some_sentence : (span.add s).sentences ≠ [] := by simp
  simp only [Packing.store, wide, Span.cut, Span.next]
  by_cases full : targetChars ≤ width (span.add s).sentences
  · rw [if_pos full, if_pos full, if_pos full, grown.flush some_sentence, Span.after]
    by_cases short : s.text.length < minChars
    · rw [if_pos short, if_pos short, if_pos trimmed.some_text]
      refine ⟨_, rfl, ⟨rfl, ?_, ?_, ?_⟩, rfl, rfl, label⟩
      · intro t mem
        obtain rfl : t = s := by simpa [Span.sentences] using mem
        exact trimmed
      · intro t mem
        obtain rfl : s = t := by simpa [Span.sentences] using mem
        rfl
      · intro t mem
        obtain rfl : t = s := by simpa [Span.sentences] using mem
        exact label.symm
    · rw [if_neg short, if_neg short, if_neg (not_not.mpr rfl)]
      exact ⟨_, rfl, .nothing rfl, rfl, rfl, label⟩
  · rw [if_neg full, if_neg full, if_neg full]
    exact ⟨_, rfl, grown, (List.append_nil _).symm, rfl, label⟩

/-- The pass over the sentences to come makes the chunks of the spans they are packed into. -/
lemma Packing.Holds.run (tables : Unicode) (issue : Option String) (holds : p.Holds span)
    {texts : List (ℕ × List Char)} (trimmed : ∀ text ∈ texts, Trimmed isSpace text.2) :
    ((texts.foldl (fun p text => packSentence tables issue text.1 p text.2) p).flush issue).chunks =
      p.chunks ++ chunksFrom issue p.ordinal (pack span (labelled tables p.label texts)) := by
  induction texts generalizing p span with
  | nil =>
    rw [labelled, pack, List.foldl_nil]
    by_cases empty : span.sentences = []
    · rw [if_pos empty, flush_of_nil (holds.buf_eq_nil.mpr empty)]
      exact (List.append_nil _).symm
    · rw [if_neg empty, holds.flush empty]
      rfl
  | cons text rest ih =>
    let s : Sentence := ⟨text.1, (sectionOf tables text.2).or p.label, text.2⟩
    obtain ⟨entered, enter, begun, chunks, ordinal, label, page⟩ :=
      holds.enter issue (sectionOf tables text.2) (s := s) rfl
    obtain ⟨stored, store, next, chunks', ordinal', label'⟩ :=
      begun.store issue (trimmed text (.head _)) label page
    have step : packSentence tables issue text.1 p text.2 = stored := by
      rw [packSentence, enter, store]
    rw [List.foldl_cons, step, ih next fun t mem => trimmed t (.tail _ mem)]
    have unfolded : labelled tables p.label (text :: rest) = s :: labelled tables s.label rest := rfl
    rw [unfolded, pack, chunks', chunks, chunksFrom_append, chunksFrom_append, ordinal', ordinal, label',
      List.length_append]
    simp only [List.append_assoc, Nat.add_assoc]

/-- The chunks of a report are those of its spans, numbered in order. -/
theorem chunkReport_eq (tables : Unicode) (issue : Option String) (pages : List (List Char)) :
    chunkReport tables issue pages = chunksFrom issue 0 (reportSpans tables pages) := by
  have trimmed : ∀ text ∈ pagedSentences pages, Trimmed isSpace text.2 := by
    intro text mem
    obtain ⟨page, _, mem⟩ := List.mem_flatMap.mp mem
    obtain ⟨sentence, read, rfl⟩ := List.mem_map.mp mem
    exact trimmed_of_mem_sentences read
  have start : ({} : Packing).Holds {} := .nothing rfl
  have run := start.run tables issue trimmed
  rw [pagedSentences, List.foldl_flatMap] at run
  simp only [List.foldl_map] at run
  rw [chunkReport, run]
  rfl

/-! ## What the spans hold -/

variable {s : Sentence} {rest : List Sentence}

lemma fresh_ended (span : Span) (s : Sentence) :
    (span.ended s).flatMap Span.fresh ++ (span.before s).fresh = span.fresh := by
  rw [Span.ended, Span.before]
  split_ifs <;> simp

/-- A span cut or kept, nothing of its own sentences is lost or doubled. -/
lemma fresh_cut (span : Span) (s : Sentence) :
    span.cut.flatMap Span.fresh ++ (span.next s).fresh = span.fresh := by
  rw [Span.cut, Span.next]
  split_ifs with full
  · rw [Span.after]
    split_ifs <;> simp
  · simp

/-- Each sentence is a span's own once, in order. -/
lemma flatMap_fresh_pack (span : Span) (rest : List Sentence) :
    (pack span rest).flatMap Span.fresh = span.fresh ++ rest := by
  induction rest generalizing span with
  | nil =>
    rw [pack]
    split_ifs with empty
    · have none_fresh := (List.append_eq_nil_iff.mp empty).2
      rw [none_fresh]
      rfl
    · simp
  | cons s rest ih =>
    rw [pack, List.flatMap_append, List.flatMap_append, ih]
    have cut := fresh_cut ((span.before s).add s) s
    have ended := fresh_ended span s
    calc _ = (span.ended s).flatMap Span.fresh ++ (((span.before s).add s).cut.flatMap Span.fresh ++
          (((span.before s).add s).next s).fresh) ++ rest := by simp only [List.append_assoc]
      _ = (span.ended s).flatMap Span.fresh ++ ((span.before s).fresh ++ [s]) ++ rest := by rw [cut]; rfl
      _ = _ := by rw [← List.append_assoc, ended, List.append_assoc, List.singleton_append]

/-- A span takes over nothing, or the last of the own sentences of the span before it. -/
def LedBy : Option Sentence → List Span → Prop
  | _, [] => True
  | last, span :: spans => (∀ o ∈ span.overlap, last = some o) ∧ LedBy span.fresh.getLast? spans

lemma ledBy_pack {last : Option Sentence} (led : ∀ o ∈ span.overlap, last = some o) (rest : List Sentence) :
    LedBy last (pack span rest) := by
  induction rest generalizing span last with
  | nil =>
    rw [pack]
    split_ifs
    · trivial
    · exact ⟨led, trivial⟩
  | cons s rest ih =>
    have grown {last : Option Sentence} (led : ∀ o ∈ (span.before s).overlap, last = some o) :
        LedBy last (((span.before s).add s).cut ++ pack (((span.before s).add s).next s) rest) := by
      rw [Span.cut, Span.next]
      split_ifs with full
      · refine ⟨led, ih ?_⟩
        intro o mem
        rw [Span.after] at mem
        split_ifs at mem
        · cases mem
          exact List.getLast?_concat
        · cases mem
      · exact ih led
    rw [pack, List.append_assoc, Span.ended]
    by_cases same : ∀ last ∈ span.sentences.getLast?, last.label = s.label
    · rw [if_pos same]
      apply grown
      rwa [Span.before, if_pos same]
    · rw [if_neg same]
      refine ⟨led, grown ?_⟩
      rw [Span.before, if_neg same]
      intro o mem
      cases mem

/-- What every span has: one section, and room for its last sentence. -/
structure Span.Sound (span : Span) : Prop where
  one_section : ∀ s ∈ span.sentences, s.label = span.sentences.head?.bind Sentence.label
  room : width span.sentences.dropLast < targetChars

lemma sound_empty : ({} : Span).Sound := by
  constructor
  · intro s mem
    cases mem
  · change 0 < targetChars
    decide

lemma Span.Sound.grown (sound : span.Sound) (open_span : width span.sentences < targetChars) (s : Sentence) :
    ((span.before s).add s).Sound := by
  rw [Span.before]
  split_ifs with same
  · constructor
    · intro t mem
      rw [Span.sentences_add, List.mem_append, List.mem_singleton] at mem
      rw [Span.sentences_add]
      cases list : span.sentences with
      | nil =>
        rw [list] at mem
        rcases mem with old | rfl
        · cases old
        · rfl
      | cons first others =>
        have head (u : Sentence) (u_mem : u ∈ span.sentences) : u.label = first.label := by
          have one := sound.one_section u u_mem
          rwa [list] at one
        change t.label = first.label
        rcases mem with old | rfl
        · exact head t old
        · have last := List.getLast?_eq_some_getLast (l := span.sentences) (by simp [list])
          rw [← same _ last]
          exact head _ (List.mem_of_getLast? last)
    · rw [Span.sentences_add, List.dropLast_concat]
      exact open_span
  · constructor
    · intro t mem
      rw [Span.sentences_add] at mem
      obtain rfl : t = s := by simpa [Span.sentences] using mem
      rfl
    · change 0 < targetChars
      decide

lemma sound_after (s : Sentence) : (Span.after s).Sound ∧ width (Span.after s).sentences < targetChars := by
  rw [Span.after]
  split_ifs with short
  · constructor
    · constructor
      · intro t mem
        obtain rfl : t = s := by simpa [Span.sentences] using mem
        rfl
      · change 0 < targetChars
        decide
    · have wide : width (Span.sentences ⟨some s, []⟩) = s.text.length + 1 := by simp [width, Span.sentences]
      rw [wide]
      exact (Nat.succ_lt_succ short).trans (by decide)
  · exact ⟨sound_empty, by decide⟩

/-- Every span is sound: the one it begins with has room for one more sentence. -/
lemma sound_pack (open_span : width span.sentences < targetChars) (sound : span.Sound) (rest : List Sentence) :
    ∀ span' ∈ pack span rest, span'.Sound := by
  induction rest generalizing span with
  | nil =>
    rw [pack]
    split_ifs
    · exact nofun
    · exact List.forall_mem_singleton.mpr sound
  | cons s rest ih =>
    have grown := sound.grown open_span s
    intro span' mem
    rw [pack, List.mem_append, List.mem_append] at mem
    rcases mem with (ended | cut) | later
    · rw [Span.ended] at ended
      split_ifs at ended
      · cases ended
      · obtain rfl := List.mem_singleton.mp ended
        exact sound
    · rw [Span.cut] at cut
      split_ifs at cut
      · obtain rfl := List.mem_singleton.mp cut
        exact grown
      · cases cut
    · rw [Span.next] at later
      split_ifs at later with full
      · exact ih (sound_after s).2 (sound_after s).1 span' later
      · exact ih (not_le.mp full) grown span' later

/-- The text of a sound span is less than the target longer than its last sentence. -/
lemma Span.Sound.length_text (sound : span.Sound) {last : Sentence} (ends : last ∈ span.sentences.getLast?) :
    span.text.length < targetChars + last.text.length := by
  obtain ⟨front, list⟩ := List.getLast?_eq_some_iff.mp ends
  have room := sound.room
  rw [list, List.dropLast_concat] at room
  have joined (l : List Sentence) :
      ([' '].intercalate ((l ++ [last]).map Sentence.text)).length = width l + last.text.length := by
    induction l with
    | nil => simp [width]
    | cons s l ih =>
      cases l with
      | nil =>
        simp [width, List.intercalate]
        omega
      | cons t l =>
        rw [List.cons_append, List.map_cons, List.cons_append, List.map_cons, intercalate_cons_cons]
        rw [List.cons_append, List.map_cons] at ih
        simp only [List.length_append, List.length_singleton, ih, width, List.map_cons, List.sum_cons]
        omega
  rw [Span.text, list, joined]
  omega

/-! ## Chunks without a sentence of their own -/

/-- Whether `s` is the last sentence of its section. -/
def closes (s : Sentence) (rest : List Sentence) : Bool := rest.head?.all fun next => s.label ≠ next.label

/-- Whether the last sentence of some section is short and brings what was gathered since the last cut, a short
    sentence there included, to the target. -/
def endsFull (gathered : ℕ) : List Sentence → Bool
  | [] => false
  | s :: rest =>
    let size := gathered + (s.text.length + 1)
    if size < targetChars then endsFull (if closes s rest then 0 else size) rest
    else if s.text.length < minChars then closes s rest || endsFull (s.text.length + 1) rest
    else endsFull 0 rest

/-- What a span has gathered when the next sentence comes. -/
def Span.gathered (span : Span) : List Sentence → ℕ
  | [] => 0
  | s :: _ => width (span.before s).sentences

lemma width_append (l l' : List Sentence) : width (l ++ l') = width l + width l' := by
  rw [width, List.map_append, List.sum_append]
  rfl

/-- After a span that ends with `s`, the section goes on unless it is closed. -/
lemma endsFull_gathered {s : Sentence} (last : span.sentences.getLast? = some s) (rest : List Sentence) :
    endsFull (span.gathered rest) rest = endsFull (if closes s rest then 0 else width span.sentences) rest := by
  cases rest with
  | nil => rfl
  | cons next rest =>
    have same : (∀ last ∈ span.sentences.getLast?, last.label = next.label) ↔ s.label = next.label := by
      simp [last]
    rw [Span.gathered, Span.before]
    simp only [same, closes, List.head?_cons, Option.all_some, decide_not, Bool.not_eq_true',
      decide_eq_false_iff_not]
    split_ifs <;> rfl

lemma gathered_empty (rest : List Sentence) : ({} : Span).gathered rest = 0 := by
  cases rest with
  | nil => rfl
  | cons s rest =>
    rw [Span.gathered, Span.before]
    split_ifs <;> rfl

/-- A span that a sentence ends is without a sentence of its own when it holds just the one it took over. -/
lemma exists_ended_iff (span : Span) (s : Sentence) (rest : List Sentence) :
    (∃ span' ∈ span.ended s, span'.fresh = []) ↔
      span.fresh = [] ∧ ∃ o, span.overlap = some o ∧ closes o (s :: rest) = true := by
  rw [Span.ended]
  cases fresh : span.fresh with
  | cons _ _ => split_ifs <;> simp [fresh]
  | nil =>
    cases overlap : span.overlap with
    | none =>
      have empty : span.sentences = [] := by simp [Span.sentences, fresh, overlap]
      simp [empty]
    | some o =>
      have only : span.sentences = [o] := by simp [Span.sentences, fresh, overlap]
      by_cases same : o.label = s.label <;> simp [only, closes, same, fresh]

/-- A span without a sentence of its own is one whose section ends at the cut before it. -/
lemma exists_no_fresh_iff (span : Span) (rest : List Sentence) :
    (∃ span' ∈ pack span rest, span'.fresh = []) ↔
      (span.fresh = [] ∧ ∃ o, span.overlap = some o ∧ closes o rest = true) ∨
        endsFull (span.gathered rest) rest = true := by
  induction rest generalizing span with
  | nil =>
    rw [pack]
    cases fresh : span.fresh with
    | cons _ _ => simp [Span.sentences, fresh, endsFull]
    | nil => cases overlap : span.overlap <;> simp [Span.sentences, fresh, overlap, endsFull, closes]
  | cons s rest ih =>
    let grown := (span.before s).add s
    have last : grown.sentences.getLast? = some s := by simp [grown]
    have own : grown.fresh ≠ [] := by simp [grown, Span.add]
    have size : width grown.sentences = span.gathered (s :: rest) + (s.text.length + 1) := by
      change width ((span.before s).add s).sentences = _
      rw [Span.sentences_add, width_append]
      rfl
    have later : (∃ span' ∈ grown.cut ++ pack (grown.next s) rest, span'.fresh = []) ↔
        endsFull (span.gathered (s :: rest)) (s :: rest) = true := by
      rw [endsFull, ← size, Span.cut, Span.next]
      by_cases full : targetChars ≤ width grown.sentences
      · have cut : (∃ span' ∈ [grown] ++ pack (.after s) rest, span'.fresh = []) ↔
            ∃ span' ∈ pack (.after s) rest, span'.fresh = [] := by
          simp [own]
        rw [if_pos full, if_pos full, cut, if_neg (not_lt.mpr full), ih, Span.after]
        by_cases short : s.text.length < minChars
        · have alone : Span.sentences ⟨some s, []⟩ = [s] := rfl
          rw [if_pos short, if_pos short, endsFull_gathered (s := s) (by rw [alone]; rfl), alone]
          cases closed : closes s rest <;> simp [closed, width]
        · rw [if_neg short, if_neg short, gathered_empty]
          simp
      · rw [if_neg full, if_neg full, List.nil_append, if_pos (not_le.mp full), ih, endsFull_gathered last]
        simp [own]
    rw [pack, List.append_assoc, ← later, ← exists_ended_iff]
    simp only [List.mem_append, or_and_right, exists_or]
    rfl

/-- What a report's chunks should be: numbered in order, made of its sentences in order, each a chunk's own once
    and otherwise only the sentence that leads into the next chunk. A chunk is under the section its sentences
    were read under, is on the page of its first one, and is cut once it reaches the target. -/
structure WellChunked (issue : Option String) (sentences : List Sentence) (spans : List Span)
    (chunks : List ReportChunk) : Prop where
  made : chunks = chunksFrom issue 0 spans
  numbered : chunks.map ReportChunk.ordinal = List.range chunks.length
  in_order : spans.flatMap Span.fresh = sentences
  led : LedBy none spans
  one_section : ∀ span ∈ spans, ∀ s ∈ span.sentences, s.label = span.sentences.head?.bind Sentence.label
  size : ∀ span ∈ spans, ∀ last ∈ span.sentences.getLast?,
    span.text.length < targetChars + last.text.length
  own : ∀ span ∈ spans, span.fresh ≠ []

/-- A report is chunked well exactly when no section of it ends with a short sentence that fills a chunk up. -/
theorem well_chunked_iff (tables : Unicode) (issue : Option String) (pages : List (List Char)) :
    WellChunked issue (reportSentences tables pages) (reportSpans tables pages)
        (chunkReport tables issue pages) ↔
      endsFull 0 (reportSentences tables pages) = false := by
  have own : (∃ span ∈ reportSpans tables pages, span.fresh = []) ↔
      endsFull 0 (reportSentences tables pages) = true := by
    rw [reportSpans, exists_no_fresh_iff, gathered_empty]
    simp
  have sound := sound_pack (by decide) sound_empty (reportSentences tables pages)
  constructor
  · intro well
    rw [← Bool.not_eq_true, ← own]
    rintro ⟨span, mem, empty⟩
    exact well.own span mem empty
  · intro fits
    refine ⟨chunkReport_eq tables issue pages, ?_, ?_, ?_, ?_, ?_, ?_⟩
    · rw [chunkReport_eq, chunksFrom, List.map_map, List.length_map, List.length_zipIdx, List.range_eq_range']
      exact List.zipIdx_map_snd 0 (reportSpans tables pages)
    · exact flatMap_fresh_pack {} (reportSentences tables pages)
    · exact ledBy_pack (fun o mem => by cases mem) (reportSentences tables pages)
    · intro span mem
      exact (sound span mem).one_section
    · intro span mem last ends
      exact (sound span mem).length_text ends
    · intro span mem empty
      have full := own.mp ⟨span, mem, empty⟩
      rw [fits] at full
      cases full

/-- A page of two sentences, of which the second is short and fills the chunk up. -/
def twoSentences : List Char :=
  List.replicate 1000 'x' ++ ['.', ' '] ++ List.replicate 150 'y' ++ ['.']

/-- The short sentence at the end of the report is a chunk by itself, after the chunk that ends with it. -/
theorem two_sentences_repeat :
    (chunkReport .ascii none [twoSentences]).map ReportChunk.text =
        [twoSentences, List.replicate 150 'y' ++ ['.']] ∧
      ¬ WellChunked none (reportSentences .ascii [twoSentences]) (reportSpans .ascii [twoSentences])
        (chunkReport .ascii none [twoSentences]) := by
  constructor
  · decide +kernel
  · intro well
    have repeats : (reportSpans .ascii [twoSentences]).any (fun span => span.fresh.isEmpty) = true := by
      decide +kernel
    obtain ⟨span, mem, empty⟩ := List.any_eq_true.mp repeats
    exact well.own span mem (List.isEmpty_iff.mp empty)

end ClientEngagement.Rag
