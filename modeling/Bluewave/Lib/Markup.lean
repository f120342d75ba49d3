import Mathlib.Data.List.Infix

/-! A reader of markup, as far as pages go that quote all their attribute values: text,
tags, quoted values, and elements whose content is no markup. And templates, pages with
values at some places. Where every value stands in a text or in a quoted attribute value,
whatever is written there without `<` and quotes is read back at its place, and all the
rest of the page is read as it is for any other values. -/
namespace Lib.Markup

/-! ## The reader -/

/-- What a page is made of: its characters; in a template also values, and elements whose
content is no markup. -/
inductive Sym (α : Type) where
  | char (c : Char)
  | value (a : α)
  | block (name : List Char)
  deriving DecidableEq

/-- A tag has its own characters, the attribute values cut out of them, and its attributes. -/
inductive Token (α : Type) where
  | text (content : List (Sym α))
  | tag (own : List Char) (attributes : List (List Char × List (Sym α)))
  deriving DecidableEq

/-- Where the reader is. A tag is known by its characters so far, the last one first. -/
inductive Mode where
  | text
  | tag (seen : List Char)
  | value (quote : Char) (seen : List Char)
  /-- in an element that ends at `closing`, of which `rest` is still to come -/
  | raw (closing rest : List Char)
  deriving DecidableEq

def isSpace (c : Char) : Bool := c = ' ' ∨ c = '\n' ∨ c = '\t' ∨ c = '\r'

def isQuote (c : Char) : Bool := c = '\'' ∨ c = '"'

def rawElements : List (List Char) := [['s', 't', 'y', 'l', 'e'], ['s', 'c', 'r', 'i', 'p', 't']]

def tagName (own : List Char) : List Char := own.takeWhile fun c => !isSpace c

/-- What comes behind a tag. -/
def afterTag (seen : List Char) : Mode :=
  let name := tagName seen.reverse
  if name ∈ rawElements then .raw ('<' :: '/' :: name) ('<' :: '/' :: name) else .text

/-- A quote opens a value behind `=`. -/
def opensValue (seen : List Char) : Bool := (seen.dropWhile isSpace).head? = some '='

/-- The name before `=`. -/
def attributeName (seen : List Char) : List Char :=
  ((((seen.dropWhile isSpace).drop 1).dropWhile isSpace).takeWhile fun c =>
    !isSpace c && !isQuote c).reverse

def Mode.step (c : Char) : Mode → Mode
  | .text => if c = '<' then .tag [] else .text
  | .tag seen =>
    if c = '>' then afterTag seen
    else if isQuote c && opensValue seen then .value c seen
    else .tag (c :: seen)
  | .value quote seen => if c = quote then .tag (quote :: seen) else .value quote seen
  | .raw closing [] => .raw closing []
  | .raw closing (d :: rest) =>
    if c.toLower = d then if rest = [] then .tag closing.tail.reverse else .raw closing rest
    else if c = '<' then .raw closing closing.tail
    else .raw closing closing

variable {α : Type}

def read : Mode → List (List Char × List (Sym α)) → List (Sym α) → List (Sym α) → List (Token α)
  | _, _, _, [] => []
  | m, attributes, content, .char c :: page =>
    match m with
    | .text =>
      if c = '<' then .text content.reverse :: read (.tag []) [] [] page
      else read m attributes (.char c :: content) page
    | .tag seen =>
      if c = '>' then .tag seen.reverse attributes.reverse :: read (afterTag seen) [] [] page
      else read (m.step c) attributes content page
    | .value quote seen =>
      if c = quote then
        read (.tag (quote :: seen)) ((attributeName seen, content.reverse) :: attributes) [] page
      else read m attributes (.char c :: content) page
    | .raw .. => read (m.step c) attributes content page
  | m, attributes, content, .value a :: page => read m attributes (.value a :: content) page
  | _, _, content, .block name :: page =>
    .text content.reverse :: .tag name [] :: .tag ('/' :: name) [] :: read .text [] [] page

/-- The tokens of a page. -/
def tokens (page : List Char) : List (Token Empty) := read .text [] [] (page.map .char)

/-! ## Templates -/

/-- Where a value may stand. -/
def Mode.TakesValue : Mode → Prop
  | .text => True
  | .value quote _ => isQuote quote = true
  | _ => False

instance decidableTakesValue (m : Mode) : Decidable m.TakesValue := by
  cases m <;> unfold Mode.TakesValue <;> infer_instance

/-- The mode behind a template whose values all stand in texts and attribute values. -/
def walk : Mode → List (Sym α) → Option Mode
  | m, [] => some m
  | m, .char c :: t => walk (m.step c) t
  | m, .value _ :: t => if m.TakesValue then walk m t else none
  | m, .block name :: t => if m = .text ∧ name ∈ rawElements then walk .text t else none

theorem walk_append (m : Mode) (t u : List (Sym α)) :
    walk m (t ++ u) = (walk m t).bind fun m' => walk m' u := by
  induction t generalizing m with
  | nil => rfl
  | cons s t ih =>
    cases s with
    | char c => exact ih _
    | value a =>
      simp only [List.cons_append, walk]
      split
      · exact ih m
      · rfl
    | block name =>
      simp only [List.cons_append, walk]
      split
      · exact ih .text
      · rfl

/-- Neither `<` nor a quote. -/
def Sym.Inert : Sym α → Prop
  | .char c => c ≠ '<' ∧ isQuote c = false
  | .value _ => True
  | .block _ => False

/-- Read as an element whose content is no markup. -/
def ReadsAsBlock (name : List Char) (page : List (Sym α)) : Prop :=
  ∀ attributes content rest, read .text attributes content (page ++ rest) =
    .text content.reverse :: .tag name [] :: .tag ('/' :: name) [] :: read .text [] [] rest

/-- Puts something in the place of values and blocks that is read as what was there. -/
structure Fills {β : Type} (σ : Sym α → List (Sym β)) (t : List (Sym α)) : Prop where
  char : ∀ c, σ (.char c) = [.char c]
  value : ∀ a, ∀ s ∈ σ (.value a), s.Inert
  block : ∀ name, .block name ∈ t → ReadsAsBlock name (σ (.block name))

def Token.flatMap {β : Type} (σ : Sym α → List (Sym β)) : Token α → Token β
  | .text content => .text (content.flatMap σ)
  | .tag own attributes => .tag own (attributes.map fun a => (a.1, a.2.flatMap σ))

section
variable {β : Type} {m : Mode} {attributes : List (List Char × List (Sym α))}
  {content cs t : List (Sym α)}

/-- What is inert goes into the content. -/
theorem read_inert (hm : m.TakesValue) (hcs : ∀ s ∈ cs, s.Inert) (rest : List (Sym α)) :
    read m attributes content (cs ++ rest) = read m attributes (cs.reverse ++ content) rest := by
  induction cs generalizing content with
  | nil => rfl
  | cons s cs ih =>
    have hrest := @ih (s :: content) fun s' hs' => hcs s' (List.mem_cons_of_mem _ hs')
    have hs := hcs s List.mem_cons_self
    rw [List.cons_append, List.reverse_cons, List.append_assoc]
    refine Eq.trans ?_ hrest
    cases s with
    | value a => rfl
    | block name => exact hs.elim
    | char c =>
      obtain ⟨hlt, hquote⟩ := hs
      cases m with
      | text => simp [read, hlt]
      | value quote seen =>
        have hne : c ≠ quote := by
          rintro rfl
          exact absurd hm (by simp [Mode.TakesValue, hquote])
        simp [read, hne]
      | tag seen => exact hm.elim
      | raw closing rest => exact hm.elim

theorem flatMap_chars {σ : Sym α → List (Sym β)} (hσ : ∀ c, σ (.char c) = [.char c])
    (cs : List Char) : (cs.map .char).flatMap σ = cs.map .char := by
  induction cs with
  | nil => rfl
  | cons c cs ih => rw [List.map_cons, List.flatMap_cons, hσ, ih]; rfl

/-- Reading comes before filling in, or behind it. -/
theorem read_flatMap {σ : Sym α → List (Sym β)} (hσ : Fills σ t) (h : walk m t ≠ none) :
    read m (attributes.map fun a => (a.1, a.2.flatMap σ)) (content.reverse.flatMap σ).reverse
        (t.flatMap σ) =
      (read m attributes content t).map (Token.flatMap σ) := by
  induction t generalizing m attributes content with
  | nil => rfl
  | cons s t ih =>
    have hσt : Fills σ t :=
      ⟨hσ.char, hσ.value, fun name hname => hσ.block name (List.mem_cons_of_mem _ hname)⟩
    rw [List.flatMap_cons]
    cases s with
    | value a =>
      rw [walk] at h
      split at h
      · rename_i hm
        rw [read_inert hm (hσ.value a)]
        have hnext := @ih m attributes (.value a :: content) hσt h
        simpa [read] using hnext
      · exact absurd rfl h
    | block name =>
      rw [walk] at h
      split at h
      · rename_i hm
        obtain ⟨rfl, -⟩ := hm
        have hnext := @ih .text [] [] hσt h
        rw [hσ.block name List.mem_cons_self]
        simpa [read, Token.flatMap] using hnext
      · exact absurd rfl h
    | char c =>
      rw [hσ.char]
      cases m with
      | text =>
        by_cases hc : c = '<'
        · subst hc
          have hnext := @ih (.tag []) [] [] hσt h
          simpa [read, Token.flatMap] using hnext
        · have hstep : Mode.step c .text = .text := by simp [Mode.step, hc]
          have hnext := @ih .text attributes (.char c :: content) hσt (by rwa [walk, hstep] at h)
          simpa [read, hc, hσ.char] using hnext
      | tag seen =>
        by_cases hc : c = '>'
        · subst hc
          have hnext := @ih (afterTag seen) [] [] hσt h
          simpa [read, Token.flatMap] using hnext
        · have hnext := @ih (Mode.step c (.tag seen)) attributes content hσt h
          simpa [read, hc] using hnext
      | value quote seen =>
        by_cases hc : c = quote
        · subst hc
          have hstep : Mode.step c (.value c seen) = .tag (c :: seen) := by simp [Mode.step]
          have hnext := @ih (.tag (c :: seen)) ((attributeName seen, content.reverse) :: attributes)
            [] hσt (by rwa [walk, hstep] at h)
          simpa [read] using hnext
        · have hstep : Mode.step c (.value quote seen) = .value quote seen := by
            simp [Mode.step, hc]
          have hnext := @ih (.value quote seen) attributes (.char c :: content) hσt
            (by rwa [walk, hstep] at h)
          simpa [read, hc, hσ.char] using hnext
      | raw closing rest =>
        have hnext := @ih (Mode.step c (.raw closing rest)) attributes content hσt h
        simpa [read] using hnext

theorem read_start {σ : Sym α → List (Sym β)} (hσ : Fills σ t) (h : walk .text t ≠ none) :
    read .text [] [] (t.flatMap σ) = (read .text [] [] t).map (Token.flatMap σ) :=
  @read_flatMap α β .text [] [] t σ hσ h

end

/-! ## Elements whose content is no markup -/

/-- The end of the element does not come before its end. -/
def Closed (name content : List Char) : Prop :=
  ¬ ('<' :: '/' :: name) <:+: content.map Char.toLower

def element (name content : List Char) : List Char :=
  '<' :: name ++ '>' :: content ++ '<' :: '/' :: name ++ ['>']

section
variable {closing matched rest cs : List Char} {attributes : List (List Char × List (Sym α))}
  {content : List (Sym α)}

/-- Up to the end of the element nothing is read. What has matched of the end so far goes
on only with the next character. -/
theorem read_raw {tail : List Char} (hclosing : closing = '<' :: tail) (htail : '<' ∉ tail)
    (hne : tail ≠ []) (hmatched : closing = matched ++ rest) (hrest : rest ≠ [])
    (hopen : ¬ closing <:+: matched ++ cs.map Char.toLower) (page : List (Sym α)) :
    read (.raw closing rest) attributes content (cs.map .char ++ .char '<' :: page) =
      read (.raw closing tail) attributes content page := by
  have htl : closing.tail = tail := by rw [hclosing]; rfl
  obtain ⟨d, rest', rfl⟩ := List.exists_cons_of_ne_nil hrest
  induction cs generalizing matched d rest' with
  | nil =>
    simp only [List.map_nil, List.nil_append, read, Mode.step, htl, if_true]
    split
    · rename_i hd
      -- the end starts with `<` and has no other one
      obtain rfl : '<' = d := hd
      rcases matched with _ | ⟨x, matched⟩
      · obtain ⟨-, rfl⟩ := List.cons.inj (hclosing.symm.trans hmatched)
        rw [if_neg hne]
      · obtain ⟨-, rfl⟩ := List.cons.inj (hclosing.symm.trans hmatched)
        exact absurd (by simp) htail
    · rfl
  | cons c cs ih =>
    simp only [List.map_cons, List.cons_append, read, Mode.step, htl]
    rw [List.map_cons] at hopen
    by_cases hd : c.toLower = d
    · subst hd
      rw [if_pos rfl]
      have hmore : closing = (matched ++ [c.toLower]) ++ rest' := by simpa using hmatched
      have hopen' : ¬ closing <:+: (matched ++ [c.toLower]) ++ cs.map Char.toLower := by
        simpa using hopen
      rcases rest' with _ | ⟨e, rest'⟩
      · exact absurd ⟨[], cs.map Char.toLower, by simp [hmore]⟩ hopen'
      · rw [if_neg (List.cons_ne_nil _ _)]
        exact ih hopen' e rest' hmore (List.cons_ne_nil _ _)
    · rw [if_neg hd]
      have hshort : ∀ l, l <:+ matched ++ c.toLower :: cs.map Char.toLower → ¬ closing <:+: l :=
        fun l hl hin => hopen (hin.trans hl.isInfix)
      by_cases hlt : c = '<'
      · subst hlt
        rw [if_pos rfl]
        obtain ⟨e, tail', rfl⟩ := List.exists_cons_of_ne_nil hne
        have hone : closing = ['<'] ++ e :: tail' := hclosing
        exact ih (hshort _ ⟨matched, rfl⟩) e tail' hone (List.cons_ne_nil _ _)
      · rw [if_neg hlt]
        have hnone : closing = [] ++ '<' :: tail := hclosing
        have hagain := ih (hshort _ ⟨matched ++ [c.toLower], by simp⟩) '<' tail hnone
          (List.cons_ne_nil _ _)
        rwa [← hclosing] at hagain

end

theorem readsAsBlock_element {name content : List Char} (hname : name ∈ rawElements)
    (h : Closed name content) :
    ReadsAsBlock name ((element name content).map (Sym.char : Char → Sym α)) := by
  intro attributes held rest
  have hraw (htail : '<' ∉ '/' :: name) (page : List (Sym α)) :
      read (.raw ('<' :: '/' :: name) ('<' :: '/' :: name)) [] []
          (content.map .char ++ .char '<' :: page) =
        read (.raw ('<' :: '/' :: name) ('/' :: name)) [] [] page := by
    have hnone : '<' :: '/' :: name = [] ++ '<' :: '/' :: name := rfl
    exact read_raw rfl htail (List.cons_ne_nil _ _) hnone (List.cons_ne_nil _ _) h page
  -- the two tags around it are read as they stand
  have hread (htail : '<' ∉ '/' :: name) := congrArg
    (fun behind => .text held.reverse :: .tag name [] :: behind)
    (hraw htail (('/' :: name ++ ['>']).map .char ++ rest))
  simp only [element, List.map_append, List.map_cons, List.cons_append, List.append_assoc,
    List.map_nil, List.nil_append]
  simp only [rawElements, List.mem_cons, List.not_mem_nil, or_false] at hname
  rcases hname with rfl | rfl
  · exact hread (by decide)
  · exact hread (by decide)

/-! ## Pages from templates -/

/-- A piece of a page: a text of its own, a value, or an element whose content is no markup. -/
inductive Piece (α : Type) where
  | fixed (s : String)
  | value (a : α)
  | block (name : String)
  deriving DecidableEq

def Piece.syms : Piece α → List (Sym α)
  | .fixed s => s.toList.map .char
  | .value a => [.value a]
  | .block name => [.block name.toList]

def syms (t : List (Piece α)) : List (Sym α) := t.flatMap Piece.syms

/-- How values and the content of elements are written. -/
structure Rendering (α : Type) where
  value : α → String
  block : String → String

def Piece.text (w : Rendering α) : Piece α → String
  | .fixed s => s
  | .value a => w.value a
  | .block name => "<" ++ name ++ ">" ++ w.block name ++ "</" ++ name ++ ">"

def render (w : Rendering α) (t : List (Piece α)) : String := String.join (t.map (Piece.text w))

/-- Values are written without `<` and quotes, and elements end where they should. -/
structure Rendering.Sound (w : Rendering α) (t : List (Piece α)) : Prop where
  value : ∀ a, ∀ c ∈ (w.value a).toList, c ≠ '<' ∧ isQuote c = false
  block : ∀ name, .block name ∈ t → Closed name.toList (w.block name).toList

/-- What stands on the page. -/
def Rendering.chars (w : Rendering α) : Sym α → List (Sym Empty)
  | .char c => [.char c]
  | .value a => (w.value a).toList.map .char
  | .block name => (element name (w.block (String.ofList name)).toList).map .char

/-- What is left without the values. -/
def Piece.shape : Piece α → Piece Unit
  | .fixed s => .fixed s
  | .value _ => .value ()
  | .block name => .block name

def Sym.shape : Sym α → List (Sym Unit)
  | .char c => [.char c]
  | .value _ => [.value ()]
  | .block name => [.block name]

/-- What is left of the tokens without texts and attribute values. -/
def Token.bare : Token α → Token Empty
  | .text _ => .text []
  | .tag own attributes => .tag own (attributes.map fun a => (a.1, []))

def skeleton (page : List Char) : List (Token Empty) := (tokens page).map Token.bare

section
variable {w : Rendering α} {t : List (Piece α)}

theorem syms_append (t u : List (Piece α)) : syms (t ++ u) = syms t ++ syms u :=
  List.flatMap_append

theorem walk_trans {m m' m'' : Mode} {t u : List (Piece α)} (ht : walk m (syms t) = some m')
    (hu : walk m' (syms u) = some m'') : walk m (syms (t ++ u)) = some m'' := by
  rw [syms_append, walk_append, ht]
  exact hu

theorem render_cons (w : Rendering α) (p : Piece α) (t : List (Piece α)) :
    render w (p :: t) = p.text w ++ render w t := by
  simp [render, String.join_cons]

theorem render_append (w : Rendering α) (t u : List (Piece α)) :
    render w (t ++ u) = render w t ++ render w u := by
  induction t with
  | nil => simp [render]
  | cons p t ih => rw [List.cons_append, render_cons, render_cons, ih, String.append_assoc]

theorem Rendering.flatMap_chars (w : Rendering α) (cs : List Char) :
    (cs.map .char).flatMap w.chars = cs.map .char :=
  Markup.flatMap_chars (fun _ => rfl) cs

theorem toList_render (w : Rendering α) (t : List (Piece α)) :
    (render w t).toList.map Sym.char = (syms t).flatMap w.chars := by
  induction t with
  | nil => rfl
  | cons p t ih =>
    have hpart : (p.text w).toList.map Sym.char = p.syms.flatMap w.chars := by
      cases p with
      | fixed s => exact (w.flatMap_chars s.toList).symm
      | value a => simp [Piece.text, Piece.syms, Rendering.chars]
      | block name => simp [Piece.text, Piece.syms, Rendering.chars, element]
    rw [render_cons, String.toList_append, List.map_append, hpart, ih]
    simp [syms]

theorem mem_rawElements {m : Mode} {u : List (Sym α)} (h : walk m u ≠ none)
    {name : List Char} (hb : .block name ∈ u) : name ∈ rawElements := by
  induction u generalizing m with
  | nil => cases hb
  | cons s u ih =>
    cases s with
    | char c => exact ih h (by simpa using hb)
    | value a =>
      rw [walk] at h
      split at h
      · exact ih h (by simpa using hb)
      · exact absurd rfl h
    | block name' =>
      rw [walk] at h
      split at h
      · rename_i hname
        rcases List.mem_cons.mp hb with heq | hb
        · cases heq
          exact hname.2
        · exact ih h hb
      · exact absurd rfl h

theorem Rendering.Sound.fills (hw : w.Sound t) (h : walk .text (syms t) ≠ none) :
    Fills w.chars (syms t) := by
  refine ⟨fun _ => rfl, fun a s hs => ?_, fun name hb => ?_⟩
  · obtain ⟨c, hc, rfl⟩ := List.mem_map.mp hs
    exact hw.value a c hc
  · have hclosed : Closed name (w.block (String.ofList name)).toList := by
      obtain ⟨p, hp, hpb⟩ := List.mem_flatMap.mp hb
      cases p with
      | fixed s => simp [Piece.syms] at hpb
      | value a => simp [Piece.syms] at hpb
      | block n =>
        simp only [Piece.syms, List.mem_singleton, Sym.block.injEq] at hpb
        subst hpb
        rw [String.ofList_toList]
        exact hw.block n hp
    exact readsAsBlock_element (mem_rawElements h hb) hclosed

/-- A page is read as its template, with the values as they are written. -/
theorem tokens_render (hw : w.Sound t) (h : walk .text (syms t) ≠ none) :
    tokens (render w t).toList = (read .text [] [] (syms t)).map (Token.flatMap w.chars) := by
  rw [tokens, toList_render, read_start (hw.fills h) h]

theorem bare_flatMap {β : Type} (σ : Sym α → List (Sym β)) (tok : Token α) :
    (tok.flatMap σ).bare = tok.bare := by
  cases tok <;> simp [Token.flatMap, Token.bare]

theorem syms_shape (t : List (Piece α)) :
    syms (t.map Piece.shape) = (syms t).flatMap Sym.shape := by
  simp only [syms, List.flatMap_map, List.flatMap_assoc]
  refine List.flatMap_congr fun p _ => ?_
  cases p with
  | fixed s => exact (flatMap_chars (fun _ => rfl) s.toList).symm
  | value a => rfl
  | block name => rfl

/-- Where the values may stand is a matter of the shape. -/
theorem walk_shape (m : Mode) (t : List (Piece α)) :
    walk m (syms (t.map Piece.shape)) = walk m (syms t) := by
  rw [syms_shape]
  induction syms t generalizing m with
  | nil => rfl
  | cons s u ih =>
    rw [List.flatMap_cons]
    cases s with
    | char c => exact ih _
    | value a =>
      simp only [Sym.shape, List.singleton_append, walk]
      rw [ih m]
    | block name =>
      simp only [Sym.shape, List.singleton_append, walk]
      rw [ih .text]

/-- The tags of a page are those of its shape, whatever the values are. -/
theorem skeleton_render (hw : w.Sound t) (h : walk .text (syms t) ≠ none) :
    skeleton (render w t).toList =
      (read .text [] [] (syms (t.map Piece.shape))).map Token.bare := by
  have hfills : Fills Sym.shape (syms t) := by
    refine ⟨fun _ => rfl, fun a s hs => ?_, fun name _ _ _ _ => rfl⟩
    obtain rfl := List.mem_singleton.mp hs
    trivial
  rw [skeleton, tokens_render hw h, syms_shape, read_start hfills h, List.map_map, List.map_map]
  exact List.map_congr_left fun tok _ => by simp [bare_flatMap]

/-- A literal, a character at a time. -/
theorem toList_eq {s : String} {l : List Char} (h : s = String.ofList l) : s.toList = l := by
  rw [h, String.toList_ofList]

end

/-! ## References -/

/-- The references that stand for markup characters. -/
def references : List (List Char × Char) :=
  [(['&', 'a', 'm', 'p', ';'], '&'), (['&', 'l', 't', ';'], '<'), (['&', 'g', 't', ';'], '>'),
    (['&', 'q', 'u', 'o', 't', ';'], '"'), (['&', '#', 'x', '2', '7', ';'], '\'')]

/-- The number counts what is left of a reference. -/
def decodeFrom : Nat → List Char → List Char
  | _, [] => []
  | n + 1, _ :: cs => decodeFrom n cs
  | 0, c :: cs =>
    match references.find? fun r => r.1.isPrefixOf (c :: cs) with
    | some r => r.2 :: decodeFrom (r.1.length - 1) cs
    | none => c :: decodeFrom 0 cs

def Sym.char? : Sym α → Option Char
  | .char c => some c
  | .value _ => none
  | .block _ => none

/-- A text with its references read. -/
def decode (cs : List Char) : List Char := decodeFrom 0 cs

theorem decode_char {c : Char} (hc : c ≠ '&') (cs : List Char) :
    decode (c :: cs) = c :: decode cs := by
  have hne : ('&' == c) = false := beq_false_of_ne hc.symm
  simp [decode, decodeFrom, references, List.isPrefixOf, hne]

theorem decode_reference {r : List Char × Char} (hr : r ∈ references) (cs : List Char) :
    decode (r.1 ++ cs) = r.2 :: decode cs := by
  simp only [references, List.mem_cons, List.not_mem_nil, or_false] at hr
  rcases hr with rfl | rfl | rfl | rfl | rfl <;> rfl

/-! ## Forms -/

/-- An input with a name, and what is said of its value. -/
structure Input (α : Type) where
  name : List (Sym α)
  value : List (Sym α)
  type : Option (List (Sym α))
  required : Bool
  pattern : Option (List (Sym α))
  min : Option (List (Sym α))
  max : Option (List (Sym α))
  deriving DecidableEq

/-- An attribute without a value is a word of the tag. -/
def hasWord (own word : List Char) : Bool := word ∈ own.splitOnP isSpace

def Token.input? : Token α → Option (Input α)
  | .tag own attributes =>
    if tagName own = ['i', 'n', 'p', 'u', 't'] then
      (attributes.lookup ['n', 'a', 'm', 'e']).map fun name =>
        { name
          value := (attributes.lookup ['v', 'a', 'l', 'u', 'e']).getD []
          type := attributes.lookup ['t', 'y', 'p', 'e']
          required := hasWord own ['r', 'e', 'q', 'u', 'i', 'r', 'e', 'd']
          pattern := attributes.lookup ['p', 'a', 't', 't', 'e', 'r', 'n']
          min := attributes.lookup ['m', 'i', 'n']
          max := attributes.lookup ['m', 'a', 'x'] }
    else none
  | .text _ => none

def Token.named (name : List Char) : Token α → Bool
  | .tag own _ => tagName own = name
  | .text _ => false

/-- The inputs of the first form, in order. -/
def inputs (ts : List (Token α)) : List (Input α) :=
  ((ts.dropWhile fun tok => !tok.named ['f', 'o', 'r', 'm']).takeWhile fun tok =>
    !tok.named ['/', 'f', 'o', 'r', 'm']).filterMap Token.input?

section
variable {β : Type} (σ : Sym α → List (Sym β))

def Input.flatMap (input : Input α) : Input β where
  name := input.name.flatMap σ
  value := input.value.flatMap σ
  type := input.type.map (List.flatMap σ)
  required := input.required
  pattern := input.pattern.map (List.flatMap σ)
  min := input.min.map (List.flatMap σ)
  max := input.max.map (List.flatMap σ)

theorem lookup_flatMap (k : List Char) (attributes : List (List Char × List (Sym α))) :
    (attributes.map fun a => (a.1, a.2.flatMap σ)).lookup k =
      (attributes.lookup k).map (List.flatMap σ) := by
  induction attributes with
  | nil => rfl
  | cons a attributes ih =>
    rw [List.map_cons, List.lookup_cons, List.lookup_cons]
    cases k == a.1 with
    | true => rfl
    | false => exact ih

theorem input?_flatMap (tok : Token α) :
    (tok.flatMap σ).input? = tok.input?.map (Input.flatMap σ) := by
  cases tok with
  | text content => rfl
  | tag own attributes =>
    simp only [Token.flatMap, Token.input?, lookup_flatMap]
    split
    · cases attributes.lookup ['n', 'a', 'm', 'e'] <;>
        cases attributes.lookup ['v', 'a', 'l', 'u', 'e'] <;> rfl
    · rfl

theorem named_flatMap (name : List Char) (tok : Token α) :
    (tok.flatMap σ).named name = tok.named name := by
  cases tok <;> rfl

theorem inputs_flatMap (ts : List (Token α)) :
    inputs (ts.map (Token.flatMap σ)) = (inputs ts).map (Input.flatMap σ) := by
  simp only [inputs, List.dropWhile_map, List.takeWhile_map, List.filterMap_map, List.map_filterMap,
    Function.comp_def, named_flatMap, input?_flatMap]

end

end Lib.Markup
