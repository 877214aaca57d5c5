import VulnLoom.GraphQlSchema

/-!
# GraphQL documents

A document is a list of definitions. An operation or a fragment is executable; the other definitions
are of the type system, with a block or without one. The projection finds an executable definition
where its walk comes to it : at the start of the document, and after a block. After a definition
without a block it looks for the next keyword of the type system, and passes over what stands
before it.
-/

namespace VulnLoom

namespace GraphQlSchema

/-! ## Balanced tokens -/

/-- Every delimiter has its partner. -/
inductive Balanced : List GraphQlToken → Prop
  | nil : Balanced []
  | cons (token : GraphQlToken) (tokens : List GraphQlToken) (hopens : token.opens = false)
      (hcloses : token.closes = false) (htokens : Balanced tokens) : Balanced (token :: tokens)
  | group (opener closer : GraphQlToken) (content tokens : List GraphQlToken)
      (hpair : (opener.value, closer.value) ∈ openToClose) (hcontent : Balanced content)
      (htokens : Balanced tokens) : Balanced (opener :: (content ++ closer :: tokens))

theorem pair_cases {opener closer : GraphQlToken}
    (h : (opener.value, closer.value) ∈ openToClose) :
    (opener.opens = true ∧ opener.closes = false) ∧
      closer.opens = false ∧ closer.closes = true := by
  simp only [openToClose, List.mem_cons, Prod.mk.injEq, List.not_mem_nil, or_false] at h
  rcases h with ⟨ho, hc⟩ | ⟨ho, hc⟩ | ⟨ho, hc⟩ <;>
    simp [GraphQlToken.opens, GraphQlToken.closes, openToClose, ho, hc]

section

variable {xs tokens content rest : List GraphQlToken} {token opener closer : GraphQlToken}
  {stack : List String}

theorem openers_plain (hopens : token.opens = false) (hcloses : token.closes = false) :
    openers stack (token :: tokens) = openers stack tokens := by
  cases stack <;> simp [openers, hopens, hcloses]

theorem openers_open (hopens : token.opens = true) :
    openers stack (token :: tokens) = openers (token.value :: stack) tokens := by
  cases stack <;> simp [openers, hopens]

theorem openers_close (hpair : (opener.value, closer.value) ∈ openToClose) :
    openers (opener.value :: stack) (closer :: tokens) = openers stack tokens := by
  obtain ⟨-, hopens, hcloses⟩ := pair_cases hpair
  simp [openers, hopens, hcloses, hpair, raiseIf]

theorem openers_append (h : Balanced xs) : ∀ (stack : List String) (tokens : List GraphQlToken),
    openers stack (xs ++ tokens) = openers stack tokens := by
  induction h with
  | nil => exact fun _ _ => rfl
  | cons token xs hopens hcloses _ ih =>
    intro stack tokens
    rw [List.cons_append, openers_plain hopens hcloses, ih]
  | group opener closer inner xs hpair _ _ ihinner ih =>
    intro stack tokens
    simp only [List.cons_append, List.append_assoc]
    rw [openers_open (pair_cases hpair).1.1, ihinner, openers_close hpair, ih]

/-- A block with its braces. -/
def braced (content : List GraphQlToken) : List GraphQlToken :=
  ⟨.punct, "\x7b"⟩ :: (content ++ [⟨.punct, "\x7d"⟩])

/-- The tokens are passed over by the search for a block. -/
def Searched (tokens : List GraphQlToken) : Prop :=
  ∀ token ∈ tokens, token.value ≠ "\x7b" ∧ token.startsDefinition = false

theorem balanced_braced (h : Balanced content) : Balanced (braced content) :=
  .group _ _ _ _ (by decide) h .nil

theorem Balanced.append (h : Balanced xs) (h' : Balanced tokens) : Balanced (xs ++ tokens) := by
  induction h with
  | nil => exact h'
  | cons token xs hopens hcloses _ ih => exact .cons token _ hopens hcloses ih
  | group opener closer inner xs hpair hinner _ _ ih =>
    simp only [List.cons_append, List.append_assoc]
    exact .group opener closer inner _ hpair hinner ih

end

/-! ## The walk -/

section

variable {limits : GraphQlSchemaObservationLimits} {state state' : SchemaState}
  {extended : Bool} {keyword : String} {token : GraphQlToken} {tokens rest : List GraphQlToken}

end

/-! ## Documents -/

/-- A definition : its keyword, which a selection set alone does not have, what stands between the
keyword and the block, and the content of the block. -/
structure GraphQlDefinition where
  description : Bool
  extended : Bool
  keyword : String
  header : List GraphQlToken
  block : Option (List GraphQlToken)
  deriving DecidableEq

namespace GraphQlDefinition

variable (d : GraphQlDefinition)

/-- An operation, anonymous or not, or a fragment. -/
def Executable : Prop :=
  d.keyword = "" ∨ d.keyword ∈ executableKeywords

instance : Decidable d.Executable :=
  inferInstanceAs (Decidable (_ ∨ _))

/-- The definition from its keyword on. -/
def core : List GraphQlToken :=
  (if d.keyword = "" then [] else [⟨.name, d.keyword⟩]) ++ (d.header ++ d.block.elim [] braced)

/-- The definition without its description. -/
def stem : List GraphQlToken :=
  (if d.extended then [⟨.name, "extend"⟩] else []) ++ d.core

def tokens : List GraphQlToken :=
  (if d.description then [⟨.string, ""⟩] else []) ++ d.stem

/-- What the grammar says of a definition. -/
structure Formed : Prop where
  header : Balanced d.header
  block : ∀ content ∈ d.block, Balanced content
  keyword : d.Executable ∨ d.keyword ∈ typeKeywords ++ ["schema", "directive"]
  executable : d.Executable → d.description = false ∧ d.extended = false ∧ d.block ≠ none
  anonymous : d.keyword = "" → d.header = []
  bodyless : d.keyword ∈ ["scalar", "union", "directive"] → d.block = none
  named : d.keyword ∈ typeKeywords →
    ∃ name header, d.header = ⟨.name, name⟩ :: header ∧ Balanced header

/-- What the searches read of the header : the name of a type is skipped. -/
def searched : List GraphQlToken :=
  if d.keyword ∈ typeKeywords then d.header.tail else d.header

/-- The header names no keyword of the type system and holds no object value. -/
def Plain : Prop :=
  Searched d.searched

end GraphQlDefinition

open GraphQlDefinition

def documentTokens (ds : List GraphQlDefinition) : List GraphQlToken :=
  ds.flatMap tokens

section

variable {limits : GraphQlSchemaObservationLimits} {state out : SchemaState}
  {d : GraphQlDefinition} {ds : List GraphQlDefinition} {rest tokens content : List GraphQlToken}
  {keyword : String}

theorem documentTokens_cons : documentTokens (d :: ds) = d.tokens ++ documentTokens ds :=
  List.flatMap_cons

/-! ### Executable definitions -/

/-- Definitions of the grammar, with plain headers. -/
def Documented (ds : List GraphQlDefinition) : Prop :=
  ∀ d ∈ ds, d.Formed ∧ d.Plain

theorem Documented.tail (h : Documented (d :: ds)) : Documented ds :=
  fun d' hmem => h d' (List.mem_cons_of_mem _ hmem)

theorem balanced_tokens (hd : d.Formed) : Balanced d.tokens := by
  have hkeyword : Balanced (if d.keyword = "" then [] else [⟨.name, d.keyword⟩]) := by
    split_ifs with hempty
    · exact .nil
    · have hvalue : d.keyword ∈ executableKeywords ∨
          d.keyword ∈ typeKeywords ++ ["schema", "directive"] := by
        rcases hd.keyword with (hanonymous | hexecutable) | hsystem
        · exact absurd hanonymous hempty
        · exact Or.inl hexecutable
        · exact Or.inr hsystem
      simp only [executableKeywords, typeKeywords, List.cons_append, List.nil_append,
        List.mem_cons, List.not_mem_nil, or_false] at hvalue
      refine .cons _ _ ?_ ?_ .nil <;>
      · rcases hvalue with (h | h | h | h) | h | h | h | h | h | h | h | h <;> rw [h] <;> decide
  have hblock : Balanced (d.block.elim [] braced) := by
    cases hcontent : d.block with
    | none => exact .nil
    | some content => exact balanced_braced (hd.block content hcontent)
  have hcore : Balanced d.core := hkeyword.append (hd.header.append hblock)
  have hstem : Balanced d.stem := by
    rw [stem]
    cases d.extended
    · exact hcore
    · exact .cons _ _ (by decide) (by decide) hcore
  rw [GraphQlDefinition.tokens]
  cases d.description
  · exact hstem
  · exact .cons _ _ (by decide) (by decide) hstem

theorem balanced_documentTokens (h : Documented ds) : Balanced (documentTokens ds) := by
  induction ds with
  | nil => exact .nil
  | cons d ds ih =>
    rw [documentTokens_cons]
    exact (balanced_tokens (h d (List.mem_cons_self ..)).1).append (ih h.tail)

/-- The number of the directive uses is only told. -/
theorem conclude_directiveUses {n : ℕ} {summary : SchemaSummary} (m : ℕ)
    (h : conclude limits state n = .ok summary) :
    conclude limits state m = .ok { summary with directiveUses := m } := by
  simp only [conclude, bind_eq_ok, pure_eq_ok] at h ⊢
  obtain ⟨objects, hobjects, _, hroots, _, hempty, _, hbudget, mutations, hmutations, subscriptions,
    hsubscriptions, rfl⟩ := h
  exact ⟨objects, hobjects, (), hroots, (), hempty, (), hbudget, mutations, hmutations,
    subscriptions, hsubscriptions, rfl⟩

/-- The projection accepts the tokens. -/
def Accepts (limits : GraphQlSchemaObservationLimits) (tokens : List GraphQlToken) : Prop :=
  ∃ summary, summarize limits tokens = .ok summary

/-- Whether a document is accepted comes of its walk. -/
theorem accepts_iff (h : Documented ds) : Accepts limits (documentTokens ds) ↔
    ∃ state summary, walk limits .empty (documentTokens ds) = .ok state ∧
      conclude limits state 0 = .ok summary := by
  have hopeners : openers [] (documentTokens ds) = .ok [] := by
    have happend := openers_append (balanced_documentTokens h) [] []
    rw [List.append_nil] at happend
    exact happend
  simp only [Accepts, summarize, hopeners, bind_eq_ok, Except.ok.injEq, exists_eq_left']
  constructor
  · rintro ⟨summary, state, hwalk, hconclude⟩
    exact ⟨state, _, hwalk, conclude_directiveUses 0 hconclude⟩
  · rintro ⟨state, summary, hwalk, hconclude⟩
    exact ⟨_, state, hwalk, conclude_directiveUses _ hconclude⟩

end

section

end

end GraphQlSchema

end VulnLoom
