import CountedBox.Proofs.Text.Escaped

namespace CountedBox.Notation

/-- An element of a container in its written form; a field has its name before it. -/
abbrev Element : Type := Option String × String

def Element.text : Element → List Char
  | (none, text) => text.toList
  | (some name, text) => name.toList ++ ':' :: ' ' :: text.toList

/-- What follows an element. -/
def following (closing : Char) : List Element → List Char
  | [] => [closing]
  | e :: es => ',' :: ' ' :: (e.text ++ following closing es)

/-- The elements with the bracket that closes them. -/
def enclosed (closing : Char) : List Element → List Char
  | [] => [closing]
  | e :: es => e.text ++ following closing es

/-- One level of a written form. -/
inductive Shape where
  | word (w : String)
  | quoted (quote : Char) (cs : List Char)
  | bracketed (opening closing : Char) (elements : List Element)

namespace Shape

def text : Shape → List Char
  | word w => w.toList
  | quoted quote cs => quote :: (cs.flatMap Text.escapeChar ++ [quote])
  | bracketed opening closing elements => opening :: enclosed closing elements

def elements : Shape → List Element
  | bracketed _ _ elements => elements
  | _ => []

end Shape

/-- Characters of the names of fields. -/
def NameChar (c : Char) : Prop := c.isAlphanum = true ∨ c = '_'

/-- Characters of names, numbers and the other words of the notation. -/
def WordChar (c : Char) : Prop := NameChar c ∨ c = '-'

/-- A name as programs write it: not empty, of letters, digits and underscores. -/
def IsName (name : String) : Prop := name ≠ "" ∧ ∀ c ∈ name.toList, NameChar c

def brackets : List (Char × Char) := [('[', ']'), ('{', '}'), ('(', ')')]

/-- What can stand after a written form. -/
def delimiters : List Char := [',', ']', '}', ')']

/-- The text ends, or goes on with a delimiter. -/
def Delimits (rest : List Char) : Prop := ∀ c ∈ rest.head?, c ∈ delimiters

/-- The words, quotes, brackets and names are such as the notation has. -/
def Shape.Sound : Shape → Prop
  | word w => w ≠ "" ∧ ∀ c ∈ w.toList, WordChar c
  | quoted quote _ => quote = '\'' ∨ quote = '"'
  | bracketed opening closing elements =>
    (opening, closing) ∈ brackets ∧ ∀ e ∈ elements, ∀ name ∈ e.1, IsName name

/-- The texts of the notation. -/
inductive Readable : List Char → Prop
  | of (shape : Shape) : shape.Sound → (∀ e ∈ shape.elements, Readable e.2.toList) → Readable shape.text

theorem WordChar.not_delimiter {c : Char} (word : WordChar c) : c ∉ delimiters := by
  intro member
  simp only [delimiters, List.mem_cons, List.not_mem_nil, or_false] at member
  rcases member with rfl | rfl | rfl | rfl <;> exact absurd word (by simp [WordChar, NameChar])

theorem WordChar.not_quote {c : Char} (word : WordChar c) : c ≠ '\'' ∧ c ≠ '"' := by
  constructor <;> rintro rfl <;> exact absurd word (by simp [WordChar, NameChar])

theorem WordChar.not_opening {c : Char} (word : WordChar c) : ∀ p ∈ brackets, c ≠ p.1 := by
  rintro p member rfl
  simp only [brackets, List.mem_cons, List.not_mem_nil, or_false] at member
  rcases member with rfl | rfl | rfl <;> exact absurd word (by simp [WordChar, NameChar])

theorem opening_ne_quote : ∀ p ∈ brackets, p.1 ≠ '\'' ∧ p.1 ≠ '"' := by decide

theorem opening_not_delimiter : ∀ p ∈ brackets, p.1 ∉ delimiters := by decide

theorem closing_delimiter : ∀ p ∈ brackets, p.2 ∈ delimiters := by decide

theorem closing_ne_comma : ∀ p ∈ brackets, p.2 ≠ ',' := by decide

/-- An opening bracket has one closing bracket. -/
theorem closing_unique : ∀ p ∈ brackets, ∀ q ∈ brackets, p.1 = q.1 → p.2 = q.2 := by decide

theorem word_head {w : String} (some : w ≠ "") (word : ∀ c ∈ w.toList, WordChar c) :
    ∃ c tail, w.toList = c :: tail ∧ WordChar c := by
  cases text : w.toList with
  | nil => exact absurd (String.toList_eq_nil_iff.mp text) some
  | cons c tail => exact ⟨c, tail, rfl, word c (text ▸ List.mem_cons_self)⟩

/-- What a text begins with tells its shape apart: a character of a word, a quote or a bracket. -/
theorem Shape.Sound.head {shape : Shape} (sound : shape.Sound) :
    ∃ c tail, shape.text = c :: tail ∧ c ∉ delimiters ∧
      match shape with
      | word _ => WordChar c
      | quoted quote _ => c = quote
      | bracketed opening _ _ => c = opening := by
  cases shape with
  | word w =>
    obtain ⟨c, tail, text, word⟩ := word_head sound.1 sound.2
    exact ⟨c, tail, text, word.not_delimiter, word⟩
  | quoted quote cs =>
    refine ⟨quote, _, rfl, ?_, rfl⟩
    rcases sound with rfl | rfl <;> decide
  | bracketed opening closing elements => exact ⟨opening, _, rfl, opening_not_delimiter _ sound.1, rfl⟩

/-- A readable text begins with something that ends no element. -/
theorem Readable.head {text : List Char} (readable : Readable text) : ∃ c tail, text = c :: tail ∧ c ∉ delimiters := by
  cases readable with
  | of shape sound =>
    obtain ⟨c, tail, text, apart, _⟩ := sound.head
    exact ⟨c, tail, text, apart⟩

theorem following_delimits {closing : Char} (mark : closing ∈ delimiters) (es : List Element) (rest : List Char) :
    Delimits (following closing es ++ rest) := by
  cases es with
  | nil =>
    rintro c ⟨⟩
    exact mark
  | cons e es =>
    rintro c ⟨⟩
    decide

/-- A text of the notation is not the name of a field with the colon after it. -/
theorem Readable.ne_named {text rest rest' : List Char} {name : String} (readable : Readable text)
    (isName : IsName name) (delimits : Delimits rest) : text ++ rest ≠ name.toList ++ ':' :: rest' := by
  intro same
  have word : ∀ c ∈ name.toList, WordChar c := fun c member => Or.inl (isName.2 c member)
  obtain ⟨c, tail, begins, wordC⟩ := word_head isName.1 word
  cases readable with
  | of shape sound =>
    cases shape with
    | word w =>
      obtain ⟨_, tails⟩ := Text.run_unique sound.2 word (fun c member word => word.not_delimiter (delimits c member))
        (by rintro c ⟨⟩ word; exact absurd word (by simp [WordChar, NameChar])) same
      have colon := delimits ':' (tails ▸ rfl)
      exact absurd colon (by decide)
    | quoted quote cs =>
      rw [begins] at same
      rcases sound with rfl | rfl
      · exact wordC.not_quote.1 (List.cons.inj same).1.symm
      · exact wordC.not_quote.2 (List.cons.inj same).1.symm
    | bracketed opening closing elements =>
      obtain ⟨c', tail', begins', _, isOpening⟩ := sound.head
      rw [begins, begins'] at same
      exact wordC.not_opening _ sound.1 ((List.cons.inj same).1.symm.trans isOpening)

/-- Whoever reads the texts knows where each of them ends. -/
def Apart (s t : List Char) : Prop :=
  ∀ {rest rest'}, Delimits rest → Delimits rest' → s ++ rest = t ++ rest' → s = t ∧ rest = rest'

/-- An element and what follows it can be read back from the text of both. -/
theorem Element.unique {e f : Element} {rest rest' : List Char} (names : ∀ name ∈ e.1, IsName name)
    (names' : ∀ name ∈ f.1, IsName name) (readable : Readable e.2.toList) (readable' : Readable f.2.toList)
    (apart : Apart e.2.toList f.2.toList) (delimits : Delimits rest) (delimits' : Delimits rest')
    (same : e.text ++ rest = f.text ++ rest') : e = f ∧ rest = rest' := by
  obtain ⟨_ | name, s⟩ := e <;> obtain ⟨_ | name', t⟩ := f
  · obtain ⟨texts, tails⟩ := apart delimits delimits' same
    exact ⟨congrArg (none, ·) (String.toList_inj.mp texts), tails⟩
  · simp only [Element.text, List.append_assoc, List.cons_append] at same
    exact absurd same (readable.ne_named (names' name' rfl) delimits)
  · simp only [Element.text, List.append_assoc, List.cons_append] at same
    exact absurd same.symm (readable'.ne_named (names name rfl) delimits')
  · simp only [Element.text, List.append_assoc, List.cons_append] at same
    have colon : ¬ NameChar ':' := by simp [NameChar]
    obtain ⟨left, after⟩ := Text.run_unique (names name rfl).2 (names' name' rfl).2 (by rintro c ⟨⟩; exact colon)
      (by rintro c ⟨⟩; exact colon) same
    obtain ⟨texts, tails⟩ := apart delimits delimits' (List.cons.inj (List.cons.inj after).2).2
    exact ⟨congrArg₂ (fun n t => (some n, t)) (String.toList_inj.mp left) (String.toList_inj.mp texts), tails⟩

/-- All pairs of elements can be told apart, with what follows them. -/
def ElementsApart (es fs : List Element) : Prop :=
  ∀ e ∈ es, ∀ f ∈ fs, ∀ {rest rest'}, Delimits rest → Delimits rest' → e.text ++ rest = f.text ++ rest' →
    e = f ∧ rest = rest'

theorem ElementsApart.tail {e f : Element} {es fs : List Element} (apart : ElementsApart (e :: es) (f :: fs)) :
    ElementsApart es fs :=
  fun x inEs y inFs => apart x (List.mem_cons_of_mem _ inEs) y (List.mem_cons_of_mem _ inFs)

/-- So can the elements that follow one, up to the closing bracket. -/
theorem following_unique {closing : Char} {es fs : List Element} {rest rest' : List Char} (mark : closing ∈ delimiters)
    (notComma : closing ≠ ',') (apart : ElementsApart es fs)
    (same : following closing es ++ rest = following closing fs ++ rest') : es = fs ∧ rest = rest' := by
  induction es generalizing fs with
  | nil =>
    cases fs with
    | nil => exact ⟨rfl, (List.cons.inj same).2⟩
    | cons f fs => exact absurd (List.cons.inj same).1 notComma
  | cons e es ih =>
    cases fs with
    | nil => exact absurd (List.cons.inj same).1.symm notComma
    | cons f fs =>
      have after := (List.cons.inj (List.cons.inj same).2).2
      simp only [List.append_eq, List.append_assoc] at after
      obtain ⟨rfl, others⟩ := apart e List.mem_cons_self f List.mem_cons_self (following_delimits mark es rest)
        (following_delimits mark fs rest') after
      obtain ⟨rfl, tails⟩ := ih apart.tail others
      exact ⟨rfl, tails⟩

theorem Element.head {e : Element} (names : ∀ name ∈ e.1, IsName name) (readable : Readable e.2.toList) :
    ∃ c tail, e.text = c :: tail ∧ c ∉ delimiters := by
  obtain ⟨_ | name, s⟩ := e
  · exact readable.head
  · have isName := names name rfl
    obtain ⟨c, tail, begins, word⟩ := word_head isName.1 fun c member => Or.inl (isName.2 c member)
    exact ⟨c, tail ++ ':' :: ' ' :: s.toList, by rw [Element.text, begins, List.cons_append], word.not_delimiter⟩

/-- So can all elements between brackets. -/
theorem enclosed_unique {closing : Char} {es fs : List Element} {rest rest' : List Char} (mark : closing ∈ delimiters)
    (notComma : closing ≠ ',') (begins : ∀ e ∈ es, ∃ c tail, e.text = c :: tail ∧ c ∉ delimiters)
    (begins' : ∀ f ∈ fs, ∃ c tail, f.text = c :: tail ∧ c ∉ delimiters) (apart : ElementsApart es fs)
    (same : enclosed closing es ++ rest = enclosed closing fs ++ rest') : es = fs ∧ rest = rest' := by
  cases es with
  | nil =>
    cases fs with
    | nil => exact ⟨rfl, List.append_cancel_left same⟩
    | cons f fs =>
      obtain ⟨c, tail, text, notMark⟩ := begins' f List.mem_cons_self
      rw [enclosed, enclosed, text] at same
      exact absurd mark ((List.cons.inj same).1 ▸ notMark)
  | cons e es =>
    cases fs with
    | nil =>
      obtain ⟨c, tail, text, notMark⟩ := begins e List.mem_cons_self
      rw [enclosed, enclosed, text] at same
      exact absurd mark ((List.cons.inj same).1 ▸ notMark)
    | cons f fs =>
      simp only [enclosed, List.append_assoc] at same
      obtain ⟨rfl, after⟩ := apart e List.mem_cons_self f List.mem_cons_self (following_delimits mark es rest)
        (following_delimits mark fs rest') same
      obtain ⟨rfl, tails⟩ := following_unique mark notComma apart.tail after
      exact ⟨rfl, tails⟩

/-- If the elements can be told apart, so can the whole: one level of the notation is read in one way. -/
theorem Shape.unique {shape shape' : Shape} {rest rest' : List Char} (sound : shape.Sound) (sound' : shape'.Sound)
    (readable : ∀ e ∈ shape.elements, Readable e.2.toList) (readable' : ∀ e ∈ shape'.elements, Readable e.2.toList)
    (apart : ElementsApart shape.elements shape'.elements) (delimits : Delimits rest) (delimits' : Delimits rest')
    (same : shape.text ++ rest = shape'.text ++ rest') : shape = shape' ∧ rest = rest' := by
  obtain ⟨c, tail, begins, _, first⟩ := sound.head
  obtain ⟨c', tail', begins', _, first'⟩ := sound'.head
  have heads : c = c' := by
    rw [begins, begins'] at same
    exact (List.cons.inj same).1
  subst heads
  -- The first character tells which of the forms it is, so the mixed cases cannot be.
  cases shape <;> cases shape' <;> simp only at first first'
  case word.word w w' =>
    obtain ⟨words, tails⟩ := Text.run_unique sound.2 sound'.2
      (fun c member word => word.not_delimiter (delimits c member))
      (fun c member word => word.not_delimiter (delimits' c member)) same
    exact ⟨congrArg word (String.toList_inj.mp words), tails⟩
  case quoted.quoted quote cs quote' ds =>
    cases first.symm.trans first'
    simp only [text, List.cons_append, List.append_assoc] at same
    obtain ⟨rfl, tails⟩ := Text.quoted_unique sound (List.cons.inj same).2
    exact ⟨rfl, tails⟩
  case bracketed.bracketed opening closing es opening' closing' fs =>
    cases first.symm.trans first'
    cases closing_unique _ sound.1 _ sound'.1 rfl
    obtain ⟨rfl, tails⟩ := enclosed_unique (closing_delimiter _ sound.1) (closing_ne_comma _ sound.1)
      (fun e member => Element.head (sound.2 e member) (readable e member))
      (fun f member => Element.head (sound'.2 f member) (readable' f member)) apart (List.cons.inj same).2
    exact ⟨rfl, tails⟩
  case word.quoted => exact absurd (first' ▸ sound') (not_or.mpr first.not_quote)
  case quoted.word => exact absurd (first ▸ sound) (not_or.mpr first'.not_quote)
  case word.bracketed => exact absurd first' (first.not_opening _ sound'.1)
  case bracketed.word => exact absurd first (first'.not_opening _ sound.1)
  case quoted.bracketed => exact absurd (first ▸ sound) (first' ▸ not_or.mpr (opening_ne_quote _ sound'.1))
  case bracketed.quoted => exact absurd (first' ▸ sound') (first ▸ not_or.mpr (opening_ne_quote _ sound.1))

theorem Shape.Sound.names {shape : Shape} (sound : shape.Sound) :
    ∀ e ∈ shape.elements, ∀ name ∈ e.1, IsName name := by
  cases shape with
  | bracketed => exact sound.2
  | _ => intro e member; cases member

/-- The notation is unambiguous: no text of it goes on as another one. -/
theorem Readable.apart {s t : List Char} (readable : Readable s) (readable' : Readable t) : Apart s t := by
  induction readable generalizing t with
  | of shape sound inside ih =>
    cases readable' with
    | of shape' sound' inside' =>
      intro rest rest' delimits delimits' same
      have apart : ElementsApart shape.elements shape'.elements := fun e inE f inF _ _ => Element.unique
        (sound.names e inE) (sound'.names f inF) (inside e inE) (inside' f inF) (ih e inE (inside' f inF))
      obtain ⟨rfl, tails⟩ := Shape.unique sound sound' inside inside' apart delimits delimits' same
      exact ⟨rfl, tails⟩

/-- One level of a readable text is known from the text. -/
theorem Shape.text_inj {shape shape' : Shape} (sound : shape.Sound) (sound' : shape'.Sound)
    (readable : ∀ e ∈ shape.elements, Readable e.2.toList) (readable' : ∀ e ∈ shape'.elements, Readable e.2.toList)
    (same : shape.text = shape'.text) : shape = shape' := by
  have ends : Delimits [] := by
    rintro c ⟨⟩
  have apart : ElementsApart shape.elements shape'.elements := fun e inE f inF _ _ => Element.unique
    (sound.names e inE) (sound'.names f inF) (readable e inE) (readable' f inF)
    ((readable e inE).apart (readable' f inF))
  exact (Shape.unique sound sound' readable readable' apart ends ends (congrArg (· ++ []) same)).1

end CountedBox.Notation
