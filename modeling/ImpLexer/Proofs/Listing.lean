import ImpLexer.Proofs.Revealing

/-!
# A listing can be read back

A listing has a line for each token, and nothing about the tokens is lost in it:
two lists of tokens with the same listing are the same list. It makes no
difference what the literals hold. A quotation mark, a backslash, a line feed or
what looks like the end of a token stands in the literal as a form that none of
them is, so the quotation mark that closes the literal is the first one there
is, and the line feed that ends the line is the first one too.

The parts of a line are found from the left: the kind goes up to the first
space, the literal tells itself where it ends, and behind the sign there is
nothing but the offset.
-/

namespace ImpLexer

/-! ## Kinds -/

/-- The kind that has the given name. -/
def Kind.ofName? (name : Text) : Option Kind :=
  [character, decimal, identifier, integer, operator, string].find? (·.name = name)

theorem Kind.ofName?_name (kind : Kind) : ofName? kind.name = some kind := by
  cases kind <;> rfl

theorem Kind.name_injective : Function.Injective Kind.name := by
  have hsome : ofName? ∘ Kind.name = some := funext ofName?_name
  exact .of_comp (hsome ▸ Option.some_injective Kind)

theorem Kind.space_notMem_name (kind : Kind) : ' ' ∉ kind.name := by
  cases kind <;> decide

/-! ## Lines -/

theorem Token.render_injective : Function.Injective Token.render := by
  intro token other h
  obtain ⟨kind, literal, offset⟩ := token
  obtain ⟨kind', literal', offset'⟩ := other
  simp only [render, List.append_assoc, List.cons_append] at h
  obtain ⟨hname, hrest⟩ :=
    Text.append_cons_inj_left kind.space_notMem_name kind'.space_notMem_name h
  obtain rfl : kind = kind' := Kind.name_injective hname
  obtain ⟨rfl, hoffset⟩ := Text.quoted_append_inj hrest
  obtain rfl : offset = offset' := Text.decimal_injective (List.cons.inj hoffset).2
  rfl

/-- What has a line of its own can be told from its line among others. -/
theorem Text.flatMap_line_injective {α : Type} {render : α → Text}
    (hline : ∀ a, '\n' ∉ render a) (hrender : Function.Injective render) :
    Function.Injective fun items : List α => items.flatMap fun a => (render a).line := by
  intro items others h
  simp only at h
  induction items generalizing others with
  | nil =>
      cases others with
      | nil => rfl
      | cons b others => simp [line] at h
  | cons a items ih =>
      cases others with
      | nil => simp [line] at h
      | cons b others =>
          simp only [List.flatMap_cons, line, List.append_assoc, List.singleton_append] at h
          obtain ⟨hfirst, hmore⟩ := append_cons_inj_left (hline a) (hline b) h
          rw [hrender hfirst, ih hmore]

/-- Whatever tokens there are, each of them is a line, and their lines are the lines of no
other tokens. -/
theorem Token.listing_injective :
    (∀ token : Token, '\n' ∉ token.render) ∧
      Function.Injective fun tokens : List Token =>
        tokens.flatMap fun token => token.render.line :=
  ⟨newline_notMem_render, Text.flatMap_line_injective newline_notMem_render render_injective⟩

end ImpLexer
