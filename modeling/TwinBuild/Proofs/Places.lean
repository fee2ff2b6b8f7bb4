import TwinBuild.Path.Clean

/-!
# Where paths lead

A path is resolved step by step, and its steps are the pieces between its slashes that are neither
empty nor a full stop. Joining paths joins their steps, the parent of a path with a file name has
all steps but the last, and replacing the file name replaces that last step. A place of proper
names is determined by its spelling.

Main statements: `resolve_join`, `resolve_withFileName`, `path_injective`,
`components_withFileName` and `isDirectlyIn_path_iff`.
-/

namespace TwinBuild

namespace Separated

variable {α : Type} [DecidableEq α]

/-- A separator anywhere cuts a text into what is before it and what is after it. -/
theorem split_append_sep (sep : α) (before after : List α) :
    split sep (before ++ sep :: after) = split sep before ++ split sep after := by
  induction before with
  | nil => simp [split]
  | cons x before ih =>
      by_cases hx : x = sep
      · simp [split, hx, ih]
      · have hne := split_ne_nil sep before
        simp only [List.cons_append, split, if_neg hx, ih]
        cases hsplit : split sep before with
        | nil => exact absurd hsplit hne
        | cons part parts => rfl

/-- No part holds the separator. -/
theorem not_mem_of_mem_split {sep : α} {text part : List α} (h : part ∈ split sep text) :
    sep ∉ part := by
  induction text generalizing part with
  | nil =>
      rw [split, List.mem_singleton] at h
      subst h
      exact List.not_mem_nil
  | cons x text ih =>
      rw [split] at h
      split at h
      · rcases List.mem_cons.1 h with rfl | h
        · exact List.not_mem_nil
        · exact ih h
      · rename_i hx
        cases hsplit : split sep text with
        | nil => exact absurd hsplit (split_ne_nil sep text)
        | cons first parts =>
            rw [hsplit] at h
            rcases List.mem_cons.1 h with rfl | h
            · have hfirst : sep ∉ first := ih (hsplit ▸ List.mem_cons_self)
              intro hmem
              rcases List.mem_cons.1 hmem with hsep | hmem
              · exact hx hsep.symm
              · exact hfirst hmem
            · exact ih (hsplit ▸ List.mem_cons_of_mem _ h)

omit [DecidableEq α] in
/-- A part at the end comes after a separator, unless it is the only one. -/
theorem join_concat (sep : List α) {parts : List (List α)} (h : parts ≠ []) (last : List α) :
    join sep (parts ++ [last]) = join sep parts ++ sep ++ last := by
  induction parts with
  | nil => exact absurd rfl h
  | cons first parts ih =>
      cases parts with
      | nil => rfl
      | cons second rest =>
          show first ++ sep ++ join sep (second :: rest ++ [last]) = _
          rw [ih (List.cons_ne_nil _ _)]
          simp [join]

omit [DecidableEq α] in
theorem exists_join_concat (sep : List α) (parts : List (List α)) (last : List α) :
    ∃ before, join sep (parts ++ [last]) = before ++ last := by
  cases parts with
  | nil => exact ⟨[], rfl⟩
  | cons first parts => exact ⟨_, join_concat sep (List.cons_ne_nil first parts) last⟩

/-- What follows the last separator of a text is determined by the text. -/
theorem eq_of_append_cons {sep : α} {before before' after after' : List α} (h : sep ∉ after)
    (h' : sep ∉ after') (heq : before ++ sep :: after = before' ++ sep :: after') :
    after = after' := by
  have hlast := congrArg (fun text => (split sep text).getLast?) heq
  simpa only [split_append_sep, split_eq_singleton sep _ h, split_eq_singleton sep _ h',
    List.getLast?_concat, Option.some.injEq] using hlast

end Separated

namespace Path

open Octets (slash dot)
open Separated (split split_append_sep split_append_cons split_ne_nil)

/-! ## Steps -/

/-- The pieces of a path that are steps. -/
def steps (p : Path) : List Octets := (split slash p.text).filter isStep

theorem of_mem_steps {p : Path} {step : Octets} (h : step ∈ p.steps) :
    slash ∉ step ∧ isStep step = true := by
  rw [steps, List.mem_filter] at h
  exact ⟨Separated.not_mem_of_mem_split h.1, h.2⟩

theorem isAbsolute_of_no_slash {piece : Octets} (h : slash ∉ piece) :
    (⟨piece⟩ : Path).isAbsolute = false := by
  unfold isAbsolute
  rw [beq_eq_false_iff_ne]
  exact fun hhead => h (List.mem_of_mem_head? hhead)

theorem steps_of_isStep {piece : Octets} (hslash : slash ∉ piece) (hstep : isStep piece = true) :
    (⟨piece⟩ : Path).steps = [piece] := by
  rw [steps, Separated.split_eq_singleton slash piece hslash, List.filter_cons_of_pos hstep]
  rfl

/-- A path begins at the root, with a full stop that counts, or with its body. -/
theorem anchor_cases (p : Path) :
    (p.text = slash :: p.body ∧ p.isAbsolute = true ∧ p.anchor = [slash])
    ∨ (p.text = dot :: p.body ∧ (p.body = [] ∨ ∃ rest, p.body = slash :: rest)
      ∧ p.isAbsolute = false ∧ p.startsAtCurrent = true ∧ p.anchor = [dot])
    ∨ (p.text = p.body ∧ p.isAbsolute = false ∧ p.startsAtCurrent = false ∧ p.anchor = []) := by
  by_cases habsolute : p.isAbsolute = true
  · refine Or.inl ⟨?_, habsolute, by rw [anchor, if_pos habsolute]⟩
    rw [body, anchor, if_pos habsolute]
    unfold isAbsolute at habsolute
    rcases htext : p.text with _ | ⟨b, rest⟩
    · rw [htext] at habsolute
      cases habsolute
    · rw [htext] at habsolute
      rw [show b = slash by simpa using habsolute]
      rfl
  · have hrelative := Bool.eq_false_iff.2 habsolute
    by_cases hcurrent : p.startsAtCurrent = true
    · have hanchor : p.anchor = [dot] := by rw [anchor, if_neg habsolute, if_pos hcurrent]
      refine Or.inr (Or.inl ?_)
      rw [body, hanchor]
      unfold startsAtCurrent at hcurrent
      rcases htext : p.text with _ | ⟨b, _ | ⟨c, rest⟩⟩
      · rw [htext] at hcurrent
        cases hcurrent
      · rw [htext] at hcurrent
        refine ⟨?_, Or.inl rfl, hrelative, ?_, rfl⟩
        · rw [show b = dot by simpa using hcurrent]
          rfl
        · simpa [startsAtCurrent, htext] using hcurrent
      · rw [htext] at hcurrent
        have hpair : b = dot ∧ c = slash := by simpa using hcurrent
        refine ⟨?_, Or.inr ⟨rest, ?_⟩, hrelative, ?_, rfl⟩
        · rw [hpair.1]
          rfl
        · rw [hpair.2]
          rfl
        · simpa [startsAtCurrent, htext] using hcurrent
    · have hanchor : p.anchor = [] := by rw [anchor, if_neg habsolute, if_neg hcurrent]
      refine Or.inr (Or.inr ⟨?_, hrelative, Bool.eq_false_iff.2 hcurrent, hanchor⟩)
      rw [body, hanchor]
      rfl

theorem filter_split_slash (rest : Octets) :
    (split slash (slash :: rest)).filter isStep = (split slash rest).filter isStep := by
  rw [show slash :: rest = [] ++ slash :: rest from rfl, split_append_sep]
  rfl

/-- A full stop at the beginning is no step. -/
theorem filter_split_dot {rest : Octets} (h : rest = [] ∨ ∃ r, rest = slash :: r) :
    (split slash (dot :: rest)).filter isStep = (split slash rest).filter isStep := by
  rcases h with rfl | ⟨r, rfl⟩
  · decide
  · rw [show dot :: slash :: r = [dot] ++ slash :: r from rfl, split_append_sep,
      filter_split_slash]
    rfl

/-- The root and a leading full stop are no steps, so the steps are those of the body. -/
theorem filter_split_body (p : Path) : (split slash p.body).filter isStep = p.steps := by
  unfold steps
  rcases anchor_cases p with ⟨htext, -⟩ | ⟨htext, hbody, -⟩ | ⟨htext, -⟩
  · rw [htext, filter_split_slash]
  · rw [htext, filter_split_dot hbody]
  · rw [htext]

theorem components_eq (p : Path) :
    p.components
      = (if p.isAbsolute then [.root] else if p.startsAtCurrent then [.current] else [])
        ++ p.steps.map stepOf := by
  rw [components, filter_split_body]

/-! ## Joining -/

theorem steps_of_slash (before after : Octets) :
    (⟨before ++ slash :: after⟩ : Path).steps
      = (⟨before⟩ : Path).steps ++ (⟨after⟩ : Path).steps := by
  unfold steps
  rw [split_append_sep, List.filter_append]

theorem join_cases (p q : Path) (h : q.isAbsolute = false) :
    (p.text = [] ∧ p.join q = q)
    ∨ (∃ before, p.text = before ++ [slash] ∧ p.join q = ⟨before ++ slash :: q.text⟩)
    ∨ (p.text ≠ [] ∧ p.join q = ⟨p.text ++ slash :: q.text⟩) := by
  unfold join
  rw [h, if_neg Bool.false_ne_true]
  rcases hlast : p.text.getLast? with _ | last
  · have hnil : p.text = [] := List.getLast?_eq_none_iff.1 hlast
    exact Or.inl ⟨hnil, by simp [hnil]⟩
  · have hne : p.text ≠ [] := by
      rintro hnil
      rw [hnil] at hlast
      cases hlast
    by_cases hslash : last = slash
    · subst hslash
      rcases List.getLast?_eq_some_iff.1 hlast with ⟨before, htext⟩
      refine Or.inr (Or.inl ⟨before, htext, ?_⟩)
      rw [if_pos (by simp), htext, List.append_assoc]
      rfl
    · refine Or.inr (Or.inr ⟨hne, ?_⟩)
      rw [if_neg (by simp [hne, hslash]), List.append_assoc]
      rfl

theorem steps_join (p q : Path) (h : q.isAbsolute = false) :
    (p.join q).steps = p.steps ++ q.steps := by
  rcases join_cases p q h with ⟨htext, hjoin⟩ | ⟨before, htext, hjoin⟩ | ⟨-, hjoin⟩
  · rw [hjoin, show p.steps = [] by rw [steps, htext]; rfl, List.nil_append]
  · have hp : p.steps = (⟨before⟩ : Path).steps := by
      rw [show p = ⟨before ++ slash :: []⟩ from congrArg Path.mk htext, steps_of_slash]
      exact List.append_nil _
    rw [hjoin, steps_of_slash, hp]
  · rw [hjoin, steps_of_slash]

theorem isAbsolute_join (p q : Path) (h : q.isAbsolute = false) :
    (p.join q).isAbsolute = p.isAbsolute := by
  unfold isAbsolute at h ⊢
  rcases join_cases p q h with ⟨htext, hjoin⟩ | ⟨before, htext, hjoin⟩ | ⟨hne, hjoin⟩
  · rw [hjoin, h, htext]
    rfl
  · rw [hjoin, htext]
    cases before <;> rfl
  · rw [hjoin]
    cases htext : p.text with
    | nil => exact absurd htext hne
    | cons b rest => rfl

theorem text_join_ne_nil (p : Path) {q : Path} (h : q.isAbsolute = false) (hq : q.text ≠ []) :
    (p.join q).text ≠ [] := by
  rcases join_cases p q h with ⟨-, hjoin⟩ | ⟨before, -, hjoin⟩ | ⟨-, hjoin⟩
  · rw [hjoin]
    exact hq
  · rw [hjoin]
    simp
  · rw [hjoin]
    simp

theorem startsAtCurrent_join {p q : Path} (hp : p.text ≠ []) (hq : q.isAbsolute = false) :
    (p.join q).startsAtCurrent = p.startsAtCurrent := by
  unfold startsAtCurrent
  rcases join_cases p q hq with ⟨hnil, -⟩ | ⟨before, htext, hjoin⟩ | ⟨-, hjoin⟩
  · exact absurd hnil hp
  · rw [hjoin, htext]
    rcases before with _ | ⟨b, _ | ⟨c, before⟩⟩
    · cases q.text <;> rfl
    · rfl
    · rfl
  · rw [hjoin]
    rcases htext : p.text with _ | ⟨b, _ | ⟨c, rest⟩⟩
    · exact absurd htext hp
    · simp
    · rfl

/-- Going on from a path that is not empty adds the steps of the other to its components. -/
theorem components_join {p q : Path} (hp : p.text ≠ []) (hq : q.isAbsolute = false) :
    (p.join q).components = p.components ++ q.steps.map stepOf := by
  rw [components_eq, components_eq p, steps_join p q hq, isAbsolute_join p q hq,
    startsAtCurrent_join hp hq, List.map_append, List.append_assoc]

/-! ## The file name and the parent -/

/-- Pieces are what is left without those after the last step, and those. -/
theorem trim_eq (pieces : List Octets) :
    ∃ gap, pieces = (pieces.reverse.dropWhile fun piece => !isStep piece).reverse ++ gap
      ∧ (∀ piece ∈ gap, isStep piece = false)
      ∧ ∀ last rest, pieces.reverse.dropWhile (fun piece => !isStep piece) = last :: rest →
        isStep last = true := by
  refine ⟨(pieces.reverse.takeWhile fun piece => !isStep piece).reverse, ?_, ?_, ?_⟩
  · rw [← List.reverse_append, List.takeWhile_append_dropWhile, List.reverse_reverse]
  · intro piece hpiece
    have hall := List.all_eq_true.1
      (List.all_takeWhile (p := fun piece => !isStep piece) (l := pieces.reverse)) piece
      (List.mem_reverse.1 hpiece)
    simpa using hall
  · intro last rest hdrop
    have hhead := List.head?_dropWhile_not (fun piece => !isStep piece) pieces.reverse
    rw [hdrop] at hhead
    simpa using hhead

theorem filter_of_gap {gap : List Octets} (h : ∀ piece ∈ gap, isStep piece = false) :
    gap.filter isStep = [] :=
  List.filter_eq_nil_iff.2 fun piece hpiece => by rw [h piece hpiece]; exact Bool.false_ne_true

/-- What is left of pieces without their last step is a beginning of them, which ends in a step if
it is not empty, and has all their steps but that one. -/
theorem dropLastStep_eq {pieces before : List Octets} (h : dropLastStep pieces = some before) :
    (∃ rest, pieces = before ++ rest)
    ∧ (∃ last, pieces.filter isStep = before.filter isStep ++ [last])
    ∧ (before = [] ∨ ∃ init step, before = init ++ [step] ∧ isStep step = true) := by
  rcases trim_eq pieces with ⟨junk, hpieces, hjunk, hlast⟩
  unfold dropLastStep at h
  split at h
  · cases h
  · rename_i last above hdrop
    have hstep : isStep last = true := hlast last above hdrop
    rw [hdrop, List.reverse_cons] at hpieces
    rcases trim_eq above.reverse with ⟨gap, habove, hgap, hend⟩
    rw [List.reverse_reverse] at habove hend
    have hbefore : before = (above.dropWhile fun piece => !isStep piece).reverse :=
      (Option.some.inj h).symm
    rw [← hbefore] at habove
    refine ⟨⟨gap ++ [last] ++ junk, ?_⟩, ⟨last, ?_⟩, ?_⟩
    · rw [hpieces, habove]
      simp
    · rw [hpieces, habove, List.filter_append, List.filter_append, List.filter_append,
        filter_of_gap hgap, filter_of_gap hjunk, List.append_nil, List.append_nil,
        List.filter_cons_of_pos hstep]
      rfl
    · cases hrest : above.dropWhile fun piece => !isStep piece with
      | nil => exact Or.inl (by rw [hbefore, hrest]; rfl)
      | cons step rest =>
          refine Or.inr ⟨rest.reverse, step, ?_, hend step rest hrest⟩
          rw [hbefore, hrest, List.reverse_cons]

theorem filter_eq_nil_of_dropLastStep {pieces : List Octets} (h : dropLastStep pieces = none) :
    pieces.filter isStep = [] := by
  unfold dropLastStep at h
  split at h
  · rename_i hdrop
    rcases trim_eq pieces with ⟨gap, hpieces, hgap, -⟩
    rw [hdrop] at hpieces
    rw [hpieces]
    exact filter_of_gap hgap
  · cases h

theorem filter_split_join {pieces : List Octets} (h : ∀ piece ∈ pieces, slash ∉ piece) :
    (split slash (Separated.join [slash] pieces)).filter isStep = pieces.filter isStep := by
  cases pieces with
  | nil => decide
  | cons piece pieces => rw [Separated.split_join slash _ (List.cons_ne_nil _ _) h]

theorem split_eq_nil_cons {text : Octets} {pieces : List Octets}
    (h : split slash text = [] :: pieces) : text = [] ∨ text.head? = some slash := by
  cases text with
  | nil => exact Or.inl rfl
  | cons b rest =>
      by_cases hb : b = slash
      · exact Or.inr (congrArg some hb)
      · rw [split, if_neg hb] at h
        split at h <;> cases h

/-- What is left of the body after a leading full stop begins with a slash if it is anything. -/
theorem join_of_current {pieces rest : List Octets} {after : Octets}
    (hpieces : split slash (slash :: after) = pieces ++ rest)
    (hend : pieces = [] ∨ ∃ init step, pieces = init ++ [step] ∧ isStep step = true) :
    Separated.join [slash] pieces = [] ∨ ∃ r, Separated.join [slash] pieces = slash :: r := by
  rw [show slash :: after = [] ++ slash :: after from rfl, split_append_sep] at hpieces
  rcases pieces with _ | ⟨first, _ | ⟨second, others⟩⟩
  · exact Or.inl rfl
  · rcases hend with hnil | ⟨init, step, hinit, hstep⟩
    · cases hnil
    · cases (List.cons.inj hpieces).1
      rcases List.append_eq_singleton_iff.1 hinit.symm with ⟨-, hlast⟩ | ⟨-, hlast⟩
      · cases hlast
        cases hstep
      · cases hlast
  · cases (List.cons.inj hpieces).1
    exact Or.inr ⟨Separated.join [slash] (second :: others), rfl⟩

/-- What is left of a body that stands alone does not begin with a slash. -/
theorem join_of_plain {text : Octets} {pieces rest : List Octets} (htext : text ≠ [])
    (hslash : text.head? ≠ some slash) (hpieces : split slash text = pieces ++ rest) :
    (⟨Separated.join [slash] pieces⟩ : Path).isAbsolute = false := by
  rcases pieces with _ | ⟨_ | ⟨b, first⟩, others⟩
  · rfl
  · rcases split_eq_nil_cons hpieces with hnil | hhead
    · exact absurd hnil htext
    · exact absurd hhead hslash
  · have hb : b ≠ slash := by
      rintro rfl
      have hfirst : (slash :: first) ∈ split slash text := by
        rw [hpieces]
        exact List.mem_cons_self
      exact Separated.not_mem_of_mem_split hfirst List.mem_cons_self
    cases others with
    | nil => simpa [isAbsolute, Separated.join] using hb
    | cons second others => simpa [isAbsolute, Separated.join] using hb

/-- The anchor before what is left of the body has its steps and begins as the path does. -/
theorem steps_of_pieces {p : Path} {pieces rest : List Octets} (hsteps : p.steps ≠ [])
    (hpieces : split slash p.body = pieces ++ rest)
    (hend : pieces = [] ∨ ∃ init step, pieces = init ++ [step] ∧ isStep step = true) :
    (⟨p.anchor ++ Separated.join [slash] pieces⟩ : Path).steps = pieces.filter isStep
    ∧ (⟨p.anchor ++ Separated.join [slash] pieces⟩ : Path).isAbsolute = p.isAbsolute := by
  have hjoin := filter_split_join fun piece hpiece => Separated.not_mem_of_mem_split
    (show piece ∈ split slash p.body from hpieces ▸ List.mem_append_left rest hpiece)
  have hbody : p.body ≠ [] := by
    intro hnil
    rw [← filter_split_body, hnil] at hsteps
    exact hsteps rfl
  unfold steps
  -- the anchor must neither swallow a step nor make a relative path absolute
  rcases anchor_cases p with ⟨-, habsolute, hanchor⟩ | ⟨-, hcurrent, hrelative, -, hanchor⟩
      | ⟨htext, hrelative, -, hanchor⟩
  · rw [hanchor, habsolute]
    exact ⟨(filter_split_slash _).trans hjoin, rfl⟩
  · rw [hanchor, hrelative]
    rcases hcurrent with hnil | ⟨after, hafter⟩
    · exact absurd hnil hbody
    · rw [hafter] at hpieces
      exact ⟨(filter_split_dot (join_of_current hpieces hend)).trans hjoin, rfl⟩
  · rw [hanchor, hrelative, List.nil_append]
    refine ⟨hjoin, join_of_plain hbody ?_ hpieces⟩
    rw [isAbsolute, htext] at hrelative
    simpa using hrelative

theorem steps_of_fileName {p : Path} {name : Octets} (h : p.fileName = some name) :
    ∃ init, p.steps = init ++ [name] ∧ name ≠ parentName := by
  unfold fileName at h
  split at h
  · rename_i other hlast
    cases h
    rw [components_eq] at hlast
    -- without a step the last component would be the root or the leading full stop
    rcases List.eq_nil_or_concat p.steps with hnil | ⟨init, last, hconcat⟩
    · rw [hnil] at hlast
      revert hlast
      cases p.isAbsolute <;> cases p.startsAtCurrent <;> simp
    · rw [hconcat, List.concat_eq_append, List.map_append, ← List.append_assoc,
        List.map_singleton, List.getLast?_concat, stepOf] at hlast
      split at hlast
      · cases hlast
      · rename_i hparent
        cases hlast
        exact ⟨init, hconcat.trans (List.concat_eq_append ..), hparent⟩
  · cases h

/-- The parent of a path with a file name is its text up to the pieces that hold the file name. -/
theorem exists_pieces_of_fileName {p : Path} {name : Octets} (h : p.fileName = some name) :
    ∃ pieces rest, p.parent? = some ⟨p.anchor ++ Separated.join [slash] pieces⟩
      ∧ split slash p.body = pieces ++ rest
      ∧ (pieces = [] ∨ ∃ init step, pieces = init ++ [step] ∧ isStep step = true)
      ∧ p.steps = pieces.filter isStep ++ [name] := by
  rcases steps_of_fileName h with ⟨init, hinit, -⟩
  cases hdrop : dropLastStep (split slash p.body) with
  | none =>
      rw [← filter_split_body, filter_eq_nil_of_dropLastStep hdrop] at hinit
      simp at hinit
  | some before =>
      rcases dropLastStep_eq hdrop with ⟨⟨rest, hpieces⟩, ⟨last, hfilter⟩, hend⟩
      refine ⟨before, rest, by rw [parent?, hdrop], hpieces, hend, ?_⟩
      rw [filter_split_body, hinit] at hfilter
      rw [hinit, (List.append_inj' hfilter rfl).1]

/-- **The parent** of a path with a file name begins as the path does and has its steps up to the
file name. -/
theorem exists_parent {p : Path} {name : Octets} (h : p.fileName = some name) :
    ∃ above, p.parent? = some above ∧ above.isAbsolute = p.isAbsolute
      ∧ p.steps = above.steps ++ [name] := by
  rcases exists_pieces_of_fileName h with ⟨pieces, rest, hparent, hpieces, hend, hsteps⟩
  have hne : p.steps ≠ [] := by
    rw [hsteps]
    simp
  rcases steps_of_pieces hne hpieces hend with ⟨habove, habsolute⟩
  exact ⟨_, hparent, habsolute, by rw [hsteps, habove]⟩

/-- A leading full stop counts if it is a piece of its own. -/
theorem startsAtCurrent_eq (p : Path) :
    p.startsAtCurrent = ((split slash p.text).head? == some [dot]) := by
  unfold startsAtCurrent
  rcases p.text with _ | ⟨b, _ | ⟨c, rest⟩⟩
  · rfl
  · by_cases hb : b = slash
    · subst hb
      rfl
    · simp [split, hb]
  · by_cases hb : b = slash
    · subst hb
      simp [split, show slash ≠ dot by decide]
    · by_cases hc : c = slash
      · simp [split, hb, hc]
      · cases hsplit : split slash rest <;> simp [split, hb, hc, hsplit]

/-- What is left of the body after the anchor begins with a full stop as the path does. -/
theorem startsAtCurrent_of_pieces {p : Path} {pieces rest : List Octets}
    (hrelative : p.isAbsolute = false) (hbody : p.body ≠ [])
    (hpieces : split slash p.body = pieces ++ rest)
    (hend : pieces = [] ∨ ∃ init step, pieces = init ++ [step] ∧ isStep step = true) :
    (⟨p.anchor ++ Separated.join [slash] pieces⟩ : Path).startsAtCurrent = p.startsAtCurrent := by
  rcases anchor_cases p with ⟨-, habsolute, -⟩ | ⟨-, hcurrent, -, hstarts, hanchor⟩
      | ⟨htext, -, hstarts, hanchor⟩
  · rw [hrelative] at habsolute
    cases habsolute
  · obtain ⟨after, hafter⟩ := hcurrent.resolve_left hbody
    rw [hafter] at hpieces
    rw [hanchor, hstarts]
    rcases join_of_current hpieces hend with hjoin | ⟨r, hjoin⟩
    · rw [hjoin]
      rfl
    · rw [hjoin]
      rfl
  · rw [hanchor, List.nil_append]
    cases pieces with
    | nil => rw [hstarts]; rfl
    | cons first others =>
        -- the first piece is the same, and it is what decides
        have hslash : ∀ piece ∈ first :: others, slash ∉ piece := fun piece hpiece =>
          Separated.not_mem_of_mem_split
            (show piece ∈ split slash p.body from hpieces ▸ List.mem_append_left rest hpiece)
        rw [startsAtCurrent_eq, startsAtCurrent_eq, Separated.split_join slash _ (by simp) hslash,
          htext, hpieces]
        rfl

/-- **A path with a file name** has the components of its parent and then the name. -/
theorem components_of_fileName {p : Path} {name : Octets} (h : p.fileName = some name) :
    ∃ above, p.parent? = some above ∧ p.components = above.components ++ [.normal name] := by
  rcases exists_pieces_of_fileName h with ⟨pieces, rest, hparent, hpieces, hend, hsteps⟩
  rcases steps_of_fileName h with ⟨-, -, hname⟩
  have hne : p.steps ≠ [] := by
    rw [hsteps]
    simp
  have hbody : p.body ≠ [] := by
    intro hnil
    rw [← filter_split_body, hnil] at hne
    exact hne rfl
  rcases steps_of_pieces hne hpieces hend with ⟨habove, habsolute⟩
  refine ⟨_, hparent, ?_⟩
  rw [components_eq p, components_eq, hsteps, habove, habsolute, List.map_append,
    List.map_singleton, stepOf, if_neg hname, ← List.append_assoc]
  cases hroot : p.isAbsolute with
  | true => rfl
  | false => rw [startsAtCurrent_of_pieces hroot hbody hpieces hend]

end Path

namespace Place

open TwinBuild.Path Octets

instance (name : Octets) : Decidable (IsName name) := inferInstanceAs (Decidable (_ ∧ _))

/-- **Resolving a path**: from the root or from here, one step after the other. -/
theorem resolve_eq (here : Place) (p : Path) :
    resolve here p = (p.steps.map stepOf).foldl follow (if p.isAbsolute then [] else here) := by
  rw [resolve, components_eq, List.foldl_append]
  cases p.isAbsolute <;> cases p.startsAtCurrent <;> rfl

/-- What begins at the root leads to one place from anywhere. -/
theorem resolve_of_isAbsolute {p : Path} (h : p.isAbsolute = true) (here : Place) :
    resolve here p = resolve [] p := by
  rw [resolve_eq, resolve_eq [], h]
  rfl

/-- **Joining** goes on from where the first path leads. -/
theorem resolve_join (here : Place) (p q : Path) (h : q.isAbsolute = false) :
    resolve here (p.join q) = resolve (resolve here p) q := by
  rw [resolve_eq, steps_join p q h, isAbsolute_join p q h, List.map_append, List.foldl_append,
    resolve_eq (resolve here p), h, ← resolve_eq]
  rfl

/-- **The file name** is the last name of the place, below the one the parent leads to. -/
theorem resolve_of_fileName {p : Path} {name : Octets} (h : p.fileName = some name) :
    ∃ above, p.parent? = some above ∧ above.isAbsolute = p.isAbsolute
      ∧ ∀ here, resolve here p = resolve here above ++ [name] := by
  rcases exists_parent h with ⟨above, habove, habsolute, hsteps⟩
  rcases steps_of_fileName h with ⟨-, -, hname⟩
  refine ⟨above, habove, habsolute, fun here => ?_⟩
  rw [resolve_eq, hsteps, List.map_append, List.foldl_append, ← habsolute, ← resolve_eq,
    List.map_singleton, stepOf, if_neg hname]
  rfl

theorem isAbsolute_of_isName {name : Octets} (h : IsName name) :
    (⟨name⟩ : Path).isAbsolute = false := isAbsolute_of_no_slash h.2.1

theorem steps_of_isName {name : Octets} (h : IsName name) : (⟨name⟩ : Path).steps = [name] :=
  steps_of_isStep h.2.1 (by simp [isStep, h.1, h.2.2.1])

/-- A proper name is one component. -/
theorem components_of_isName {name : Octets} (h : IsName name) :
    (⟨name⟩ : Path).components = [.normal name] := by
  have hplain : (⟨name⟩ : Path).startsAtCurrent = false := by
    rw [startsAtCurrent_eq, Separated.split_eq_singleton slash name h.2.1]
    simpa [currentName] using h.2.2.1
  rw [components_eq, isAbsolute_of_isName h, hplain, steps_of_isName h, List.map_singleton, stepOf,
    if_neg h.2.2.2]
  rfl

/-- A proper name leads one step down. -/
theorem resolve_name {name : Octets} (h : IsName name) (here : Place) :
    resolve here ⟨name⟩ = here ++ [name] := by
  rw [resolve_eq, steps_of_isName h, isAbsolute_of_isName h, List.map_singleton, stepOf,
    if_neg h.2.2.2]
  rfl

/-- **Another file name** leads to the place beside. -/
theorem resolve_withFileName {p : Path} (h : p.fileName.isSome) {name : Octets}
    (hname : IsName name) (here : Place) :
    resolve here (p.withFileName name) = (resolve here p).dropLast ++ [name] := by
  rcases Option.isSome_iff_exists.1 h with ⟨old, hold⟩
  rcases resolve_of_fileName hold with ⟨above, habove, -, hresolve⟩
  rw [withFileName, if_pos h, habove, Option.getD_some,
    resolve_join _ _ _ (isAbsolute_of_isName hname), resolve_name hname, hresolve,
    List.dropLast_concat]

/-- Steps are proper names or go up, so a path leads from proper names to proper names. -/
theorem isName_of_mem_resolve {here : Place} (h : ∀ name ∈ here, IsName name) (p : Path) :
    ∀ name ∈ resolve here p, IsName name := by
  have hsteps : ∀ step ∈ p.steps, slash ∉ step ∧ isStep step = true := fun _ => of_mem_steps
  have hstart : ∀ name ∈ (if p.isAbsolute then [] else here : Place), IsName name := by
    cases p.isAbsolute
    · exact h
    · exact fun name hname => absurd hname List.not_mem_nil
  rw [resolve_eq]
  revert hsteps hstart
  generalize p.steps = pieces, (if p.isAbsolute then [] else here : Place) = start
  intro hsteps hstart
  -- along the steps the place so far stays one of proper names
  induction pieces generalizing start with
  | nil => exact hstart
  | cons step pieces ih =>
      rw [List.forall_mem_cons] at hsteps
      refine ih _ hsteps.2 ?_
      unfold stepOf
      split
      · exact fun name hname => hstart name (List.dropLast_subset start hname)
      · rename_i hparent
        rcases hsteps.1 with ⟨hslash, hstep⟩
        have hname : IsName step := by
          simp only [isStep, Bool.and_eq_true, bne_iff_ne] at hstep
          exact ⟨hstep.1, hslash, hstep.2, hparent⟩
        show ∀ name ∈ start ++ [step], IsName name
        rw [List.forall_mem_append, List.forall_mem_singleton]
        exact ⟨hstart, hname⟩

/-- **One spelling for one place.** -/
theorem path_injective {a b : Place} (ha : ∀ name ∈ a, IsName name)
    (hb : ∀ name ∈ b, IsName name) (h : a.path = b.path) : a = b := by
  have hcomponents := components_path ha
  rw [h, components_path hb] at hcomponents
  have hnames := (List.cons.inj hcomponents).2
  exact ((List.map_inj_right fun _ _ hname => Component.normal.inj hname).1 hnames).symm

end Place

namespace Path

/-- Going on by a proper name adds it to the components. -/
theorem components_join_name (p : Path) {name : Octets} (hname : Place.IsName name) :
    (p.join ⟨name⟩).components = p.components ++ [.normal name] := by
  have hrelative := Place.isAbsolute_of_isName hname
  by_cases hp : p.text = []
  · rcases join_cases p ⟨name⟩ hrelative with ⟨-, hjoin⟩ | ⟨before, htext, -⟩ | ⟨hne, -⟩
    · rw [hjoin, Place.components_of_isName hname, show p = ⟨[]⟩ from congrArg Path.mk hp]
      rfl
    · rw [hp] at htext
      simp at htext
    · exact absurd hp hne
  · rw [components_join hp hrelative, Place.steps_of_isName hname, List.map_singleton, stepOf,
      if_neg hname.2.2.2]

/-- **Another file name** in the place of the old one: the parent stays, by its components. -/
theorem components_withFileName {p : Path} {old name : Octets} (h : p.fileName = some old)
    (hname : Place.IsName name) :
    ∃ above above', p.parent? = some above ∧ (p.withFileName name).parent? = some above'
      ∧ above'.components = above.components
      ∧ p.components = above.components ++ [.normal old]
      ∧ (p.withFileName name).components = above.components ++ [.normal name] := by
  obtain ⟨above, hparent, hcomponents⟩ := components_of_fileName h
  have hwith : (p.withFileName name).components = above.components ++ [.normal name] := by
    rw [withFileName, if_pos (Option.isSome_of_eq_some h), hparent, Option.getD_some,
      components_join_name above hname]
  have hfile : (p.withFileName name).fileName = some name := by
    unfold fileName
    rw [hwith, List.getLast?_concat]
  obtain ⟨above', hparent', hcomponents'⟩ := components_of_fileName hfile
  refine ⟨above, above', hparent, hparent', ?_, hcomponents, hwith⟩
  rw [hwith] at hcomponents'
  exact (List.append_inj' hcomponents' rfl).1.symm

/-- A path that is directly in a directory: its components are those of the directory and a name. -/
def IsDirectlyIn (p dir : Path) : Prop := ∃ name, p.components = dir.components ++ [.normal name]

theorem withFileName_eq (p : Path) (name : Octets) :
    ∃ above : Path, p.withFileName name = above.join ⟨name⟩ ∧ above.isAbsolute = p.isAbsolute := by
  unfold withFileName
  cases hname : p.fileName with
  | none => exact ⟨p, rfl, rfl⟩
  | some old =>
      rcases exists_parent hname with ⟨above, habove, habsolute, -⟩
      refine ⟨above, ?_, habsolute⟩
      rw [habove]
      rfl

/-- What a path is cleaned to: it must not be empty, and needs the current directory unless it
begins at the root. -/
theorem absoluteClean_eq_ok {cwd : Except Fault Place} {p clean : Path} :
    p.absoluteClean cwd = .ok clean
      ↔ p.text ≠ [] ∧ (p.isAbsolute = true ∨ cwd.isOk = true)
        ∧ clean = (Place.resolve (cwd.toOption.getD []) p).path := by
  unfold absoluteClean
  by_cases hempty : p.text = []
  · simp [hempty]
  · rw [if_neg (by simpa using hempty)]
    by_cases habsolute : p.isAbsolute = true
    · rw [if_pos habsolute, Place.resolve_of_isAbsolute habsolute (cwd.toOption.getD [])]
      exact ⟨fun h => ⟨hempty, Or.inl habsolute, (Except.ok.inj h).symm⟩,
        fun h => congrArg Except.ok h.2.2.symm⟩
    · rw [if_neg habsolute]
      cases cwd with
      | error fault => simp [habsolute, Except.map, Except.isOk, Except.toBool]
      | ok place =>
          exact ⟨fun h => ⟨hempty, Or.inr rfl, (Except.ok.inj h).symm⟩,
            fun h => congrArg Except.ok h.2.2.symm⟩

/-- A path that begins at the root is cleaned without the current directory. -/
theorem absoluteClean_of_isAbsolute {p : Path} (h : p.isAbsolute = true)
    (cwd : Except Fault Place) : p.absoluteClean cwd = .ok (Place.resolve [] p).path := by
  refine absoluteClean_eq_ok.2 ⟨?_, Or.inl h, ?_⟩
  · rintro hempty
    rw [isAbsolute, hempty] at h
    cases h
  · rw [Place.resolve_of_isAbsolute h (cwd.toOption.getD [])]

end Path

namespace Place

/-- **The spelling of a place is directly in that of another** if it is one name further. -/
theorem isDirectlyIn_path_iff {place dir : Place} (hplace : ∀ name ∈ place, IsName name)
    (hdir : ∀ name ∈ dir, IsName name) :
    place.path.IsDirectlyIn dir.path ↔ ∃ name, place = dir ++ [name] := by
  unfold Path.IsDirectlyIn
  refine exists_congr fun name => ?_
  have hnames : dir.map Component.normal ++ [.normal name] = (dir ++ [name]).map .normal := by
    rw [List.map_append, List.map_singleton]
  rw [components_path hplace, components_path hdir, List.cons_append, List.cons_inj_right, hnames]
  exact List.map_inj_right fun _ _ hname => Component.normal.inj hname

end Place

end TwinBuild
