import ImpLexer.Text.Basic

/-!
# Text without its control sequences

A terminal shows some characters and obeys the others. Most control characters
are orders by themselves. The escape character opens a longer order, a *control
sequence*, and the characters that belong to it are not shown either, so its end
has to be found: what stands behind it is text again. `Terminal.shown` is what
is left of a text when all orders are left out, which makes it safe to quote a
word that somebody else has written.

Tab, line feed, form feed and carriage return are laid out rather than obeyed,
and stay. They do so inside a control sequence too, and then interrupt it: what
can be shown behind them is shown, and only the next control character takes the
sequence up where it was left. A character outside ASCII has no part in any
sequence, and shown in such a gap it ends the one that is waiting.

Three characters have their effect everywhere. An escape begins a new sequence,
cancel and substitute break off the one that is open.
-/

namespace ImpLexer.Terminal

/-- A control character that a text is laid out with: tab, line feed, form feed or
carriage return. -/
def isLayout (c : Char) : Bool :=
  c = '\t' || c = '\n' || c = '\x0c' || c = '\r'

/-- A character that is neither an ASCII control character nor delete. -/
def isGraphic (c : Char) : Bool := ' ' ≤ c && c ≠ '\x7f'

/-- A character that may stand between the beginning of a sequence and its end:
space and the ASCII punctuation up to the slash. -/
def isIntermediate (c : Char) : Bool := ' ' ≤ c && c ≤ '/'

/-- A character that ends a sequence without parameters. -/
def isFinal (c : Char) : Bool := '0' ≤ c && c ≤ '~'

/-- A character that ends a sequence with parameters: a letter, or one of the ASCII
characters that stand between and behind the letters. -/
def isParametricFinal (c : Char) : Bool := '@' ≤ c && c ≤ '~'

/-- The byte 0x9c ends a string. It is looked for in the UTF-8 form, and found there
whatever character it is a part of. -/
def endsString (c : Char) : Bool := 0x9c ∈ String.utf8EncodeChar c

/-! ## Sequences -/

/-- How far a device control has been read in front of its string. -/
inductive DeviceHead where
  | start
  | parameters
  | intermediates
  deriving DecidableEq, Repr

/-- What a terminal is in the middle of. -/
inductive Mode where
  /-- Nothing: this is text. -/
  | ground
  /-- A sequence of which there is only the escape. -/
  | escape
  /-- A sequence without parameters, behind an intermediate character. -/
  | brief
  /-- A sequence with parameters, which begins with `[`. -/
  | parametric
  /-- A system command, which begins with `]` and ends with a bell. -/
  | command
  /-- The head of a device control, which begins with `P`. -/
  | device (head : DeviceHead)
  /-- A string: the rest of a device control, or what begins with `X`, `^` or `_`. -/
  | string
  deriving DecidableEq, Repr

namespace Mode

/-- Does the layout of a text go on inside a sequence? It does not where the
sequence holds text of its own. -/
def keepsLayout : Mode → Bool
  | ground | escape | brief | parametric => true
  | command | device _ | string => false

/-- The sequence that a character opens behind the escape. -/
def opened (c : Char) : Mode :=
  if isIntermediate c then brief
  else if c = '[' then parametric
  else if c = ']' then command
  else if c = 'P' then device .start
  else if c = 'X' ∨ c = '^' ∨ c = '_' then string
  else if isFinal c then ground
  else escape

/-- The head of a device control behind one more character, or its string. A
parameter out of place makes a string of the rest as well. -/
def deviceAfter (head : DeviceHead) (c : Char) : Mode :=
  if isParametricFinal c then string
  else if isIntermediate c then device .intermediates
  else if '0' ≤ c ∧ c ≤ ';' then
    if head = .intermediates then string else device .parameters
  else if '<' ≤ c ∧ c ≤ '?' then
    if head = .start then device .parameters else string
  else device head

/-- The mode behind a character that is not shown. -/
def after (mode : Mode) (c : Char) : Mode :=
  if c = '\x1b' then escape
  else if c = '\x18' ∨ c = '\x1a' then ground
  else
    match mode with
    | ground => ground
    | escape => opened c
    | brief => if isFinal c then ground else brief
    | parametric => if isParametricFinal c then ground else parametric
    | command => if c = '\x07' then ground else command
    | device head => deviceAfter head c
    | string => if endsString c then ground else string

end Mode

/-! ## Texts -/

/-- What is shown of a text from the middle of `mode` on, where `interrupted` tells
whether layout has interrupted it. -/
def shownFrom (mode : Mode) (interrupted : Bool) : Text → Text
  | [] => []
  | c :: t =>
      if isLayout c && mode.keepsLayout then c :: shownFrom mode true t
      else if isGraphic c && (interrupted || mode = .ground) then
        c :: shownFrom (if c ≤ '\x7f' then mode else .ground) interrupted t
      else shownFrom (mode.after c) false t

/-- What is shown of a text. -/
def shown (t : Text) : Text := shownFrom .ground false t

/-- A text that holds nothing but graphic characters is shown as it stands. -/
theorem shown_eq_self {t : Text} (h : ∀ c ∈ t, isGraphic c) : shown t = t := by
  have layout : ∀ c, isGraphic c → isLayout c = false := by
    intro c hc
    have no : ∀ d, isGraphic d = false → c ≠ d := by
      rintro d hd rfl
      rw [hd] at hc
      cases hc
    simp [isLayout, no '\t' (by decide), no '\n' (by decide), no '\x0c' (by decide),
      no '\r' (by decide)]
  unfold shown
  induction t with
  | nil => rfl
  | cons c t ih =>
      have hc := h c List.mem_cons_self
      have ht := ih fun d hd => h d (List.mem_cons_of_mem c hd)
      rw [shownFrom, layout c hc, hc]
      simp [ht]

/-- Nothing is shown but graphic characters and layout. -/
theorem isGraphic_or_isLayout_of_mem_shown {t : Text} {c : Char} (h : c ∈ shown t) :
    isGraphic c ∨ isLayout c := by
  have all : ∀ mode interrupted, c ∈ shownFrom mode interrupted t →
      isGraphic c ∨ isLayout c := by
    clear h
    induction t with
    | nil => intro mode interrupted h; cases h
    | cons d t ih =>
        intro mode interrupted h
        rw [shownFrom] at h
        split at h
        · rename_i hd
          rcases List.mem_cons.1 h with rfl | h
          · exact .inr (Bool.and_eq_true _ _ ▸ hd).1
          · exact ih _ _ h
        · split at h
          · rename_i hd
            rcases List.mem_cons.1 h with rfl | h
            · exact .inl (Bool.and_eq_true _ _ ▸ hd).1
            · exact ih _ _ h
          · exact ih _ _ h
  exact all _ _ h

end ImpLexer.Terminal
