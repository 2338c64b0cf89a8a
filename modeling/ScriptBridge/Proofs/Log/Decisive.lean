import Mathlib.Data.List.Induction
import Mathlib.Data.Prod.Lex
import Mathlib.Data.String.Basic
import Mathlib.Order.WithBot
import ScriptBridge.Log.Filter

/-!
# What decides about an event

The most specific of the directives that cover an event decides about it. So a filter falls into its
particular directives, for a target, a span or a field, and the general one for all events, which
decides where no particular one does. Both can be read off the directives that were added: the
particular part is that of the particular ones alone, and the general one is the last of its kind.
-/
namespace ScriptBridge
set_option autoImplicit false

variable {d e g : Directive} {c : Callsite} {f f' : Filter} {ds : List Directive}

namespace Directive

/-- Directives in the order of what they are for, the more specific ones later. -/
def rank (d : Directive) : Nat ×ₗ WithBot String := toLex (d.weight, d.field)

theorem isBelow_iff : d.isBelow e = true ↔ d.rank < e.rank := by
  rw [rank, rank, Prod.Lex.toLex_lt_toLex, isBelow, Bool.or_eq_true, decide_eq_true_eq,
    Bool.and_eq_true, beq_iff_eq]
  refine or_congr_right (and_congr_right fun _ => ?_)
  dsimp only
  cases d.field with
  | none =>
    cases e.field with
    | none => exact iff_of_false nofun (lt_irrefl _)
    | some y => exact iff_of_true rfl (WithBot.bot_lt_coe y)
  | some x =>
    cases e.field with
    | none => exact iff_of_false nofun (WithBot.not_lt_bot _)
    | some y => exact decide_eq_true_iff.trans WithBot.coe_lt_coe.symm

theorem isGeneral_iff : d.isGeneral = true ↔ d.target = none ∧ d.span = none ∧ d.field = none := by
  simp only [isGeneral, Bool.and_eq_true, Option.isNone_iff_eq_none, and_assoc]

/-- Directives for all events differ in their levels alone. -/
theorem eq_of_isGeneral (hd : d.isGeneral) (he : e.isGeneral) (h : d.level = e.level) : d = e := by
  obtain ⟨hTarget, hSpan, hField⟩ := isGeneral_iff.mp hd
  obtain ⟨hTarget', hSpan', hField'⟩ := isGeneral_iff.mp he
  cases d
  cases e
  simp_all

theorem covers_of_isGeneral (h : d.isGeneral) : d.covers c = true := by
  obtain ⟨hTarget, hSpan, hField⟩ := isGeneral_iff.mp h
  rw [covers, hTarget, hSpan, hField]
  rfl

/-- What covers an event of no target and no field asks for neither. -/
theorem isGeneral_of_covers_empty {l : Level} (h : d.covers ⟨"", l, []⟩ = true)
    (hTarget : d.target ≠ some "") : d.isGeneral = true := by
  rw [covers, Bool.and_eq_true, Bool.and_eq_true, Option.isNone_iff_eq_none] at h
  obtain ⟨⟨hSpan, hPrefix⟩, hField⟩ := h
  refine isGeneral_iff.mpr ⟨?_, hSpan, ?_⟩
  · cases hText : d.target with
    | none => rfl
    | some t =>
      rw [hText, Option.all_some, List.isPrefixOf_iff_prefix] at hPrefix
      obtain rfl := String.toList_eq_nil_iff.mp (List.prefix_nil.mp hPrefix)
      exact absurd hText hTarget
  · cases hName : d.field with
    | none => rfl
    | some f =>
      rw [hName] at hField
      cases hField

theorem replaces_iff : d.replaces e = true ↔
    d.target = e.target ∧ d.span = e.span ∧ d.field = e.field := by
  simp only [replaces, Bool.and_eq_true, beq_iff_eq, and_assoc]

theorem replaces_of_isGeneral (h : d.isGeneral) : d.replaces e = e.isGeneral := by
  obtain ⟨hTarget, hSpan, hField⟩ := isGeneral_iff.mp h
  rw [Bool.eq_iff_iff, replaces_iff, isGeneral_iff, hTarget, hSpan, hField]
  simp only [eq_comm]

theorem isGeneral_eq_of_replaces (h : d.replaces e) : e.isGeneral = d.isGeneral := by
  obtain ⟨hTarget, hSpan, hField⟩ := replaces_iff.mp h
  rw [isGeneral, isGeneral, hTarget, hSpan, hField]

/-- Nothing is less specific than a directive for all events. -/
theorem rank_of_isGeneral (h : g.isGeneral) : g.rank = toLex (0, ⊥) := by
  obtain ⟨hTarget, -, hField⟩ := isGeneral_iff.mp h
  rw [rank, weight, hTarget, hField]
  rfl

theorem not_isBelow_general (h : g.isGeneral) : d.isBelow g = false := by
  refine Bool.eq_false_iff.mpr fun hBelow => ?_
  rw [isBelow_iff, rank_of_isGeneral h, rank, Prod.Lex.toLex_lt_toLex] at hBelow
  rcases hBelow with hLess | ⟨-, hLess⟩
  · exact Nat.not_lt_zero _ hLess
  · exact WithBot.not_lt_bot _ hLess

theorem general_isBelow (hg : g.isGeneral) (hd : d.isGeneral = false) (hCovers : d.covers c) :
    g.isBelow d = true := by
  have hSpan : d.span = none := by
    simp only [covers, Bool.and_eq_true, Option.isNone_iff_eq_none] at hCovers
    exact hCovers.1.1
  rw [isBelow_iff, rank_of_isGeneral hg, rank, Prod.Lex.toLex_lt_toLex]
  cases hTarget : d.target with
  | some t => exact .inl (by rw [weight, hTarget]; exact Nat.succ_pos _)
  | none =>
    refine .inr ⟨by rw [weight, hTarget], bot_lt_iff_ne_bot.mpr fun hField => ?_⟩
    rw [isGeneral_iff.mpr ⟨hTarget, hSpan, hField⟩] at hd
    cases hd

end Directive

namespace Level

theorem ofVerbosity?_verbosity (l : Level) : ofVerbosity? l.verbosity = some l := by
  cases l <;> rfl

theorem verbosity_injective : Function.Injective verbosity := by
  intro a b h
  refine Option.some.inj ?_
  rw [← ofVerbosity?_verbosity a, h, ofVerbosity?_verbosity b]

end Level

namespace Directive

/-- The level of a directive shows in what it lets through. -/
theorem level_eq_of_lets (h : ∀ l, d.lets l = e.lets l) : d.level = e.level := by
  have hLets (d : Directive) (l : Level) :
      d.lets l = true ↔ ∃ most, d.level = some most ∧ l.verbosity ≤ most.verbosity := by
    simp only [lets, Option.any_eq_true, decide_eq_true_eq]
  cases hd : d.level with
  | none =>
    cases he : e.level with
    | none => rfl
    | some b =>
      obtain ⟨most, hMost, -⟩ := (hLets d b).mp ((h b).trans ((hLets e b).mpr ⟨b, he, le_rfl⟩))
      cases hd.symm.trans hMost
  | some a =>
    obtain ⟨b, hb, hab⟩ := (hLets e a).mp ((h a).symm.trans ((hLets d a).mpr ⟨a, hd, le_rfl⟩))
    obtain ⟨most, hMost, hba⟩ := (hLets d b).mp ((h b).trans ((hLets e b).mpr ⟨b, hb, le_rfl⟩))
    obtain rfl := Option.some.inj (hd.symm.trans hMost)
    rw [hb, Level.verbosity_injective (le_antisymm hab hba)]

theorem orAbove_eq (o : Option Directive) : d.orAbove o = d ∨ o = some (d.orAbove o) := by
  cases o with
  | none => exact .inl rfl
  | some e =>
    rw [orAbove]
    split
    · exact .inr rfl
    · exact .inl rfl

/-- Above a given directive, one for all events does not count. -/
theorem orAbove_or {o general : Option Directive} (h : ∀ g, general = some g → g.isGeneral) :
    d.orAbove (o.or general) = d.orAbove o := by
  cases o with
  | some e => rfl
  | none =>
    cases hGeneral : general with
    | none => rfl
    | some g =>
      have hBelow := not_isBelow_general (d := d) (h g hGeneral)
      rw [Option.none_or, orAbove, orAbove, hBelow, if_neg Bool.false_ne_true]

end Directive

namespace Filter

/-- The directive that decides covers the event. -/
theorem covers_of_decisive? (h : f.decisive? c = some d) : d ∈ f ∧ d.covers c = true := by
  induction f with
  | nil => cases h
  | cons e rest ih =>
    have hLater (h : decisive? c rest = some d) : d ∈ e :: rest ∧ d.covers c = true :=
      ⟨List.mem_cons_of_mem _ (ih h).1, (ih h).2⟩
    rw [decisive?] at h
    by_cases hCovers : e.covers c
    · rw [if_pos hCovers] at h
      obtain rfl := Option.some.inj h
      rcases Directive.orAbove_eq (d := e) (decisive? c rest) with hFirst | hRest
      · rw [hFirst]
        exact ⟨List.mem_cons_self, hCovers⟩
      · exact hLater hRest
    · rw [if_neg hCovers] at h
      exact hLater h

theorem decisive?_eq_none (h : ∀ d ∈ f, d.covers c = false) : f.decisive? c = none := by
  cases hDecisive : f.decisive? c with
  | none => rfl
  | some d =>
    obtain ⟨hMem, hCovers⟩ := covers_of_decisive? hDecisive
    cases hCovers.symm.trans (h d hMem)

/-- The directive for all events. -/
def general? (f : Filter) : Option Directive := f.find? Directive.isGeneral

/-- The directives for a target, a span or a field. -/
def particular (f : Filter) : Filter := f.filter (!·.isGeneral)

theorem isGeneral_of_mem_particular (h : d ∈ f.particular) : d.isGeneral = false :=
  (Bool.not_eq_true' _).mp (List.mem_filter.mp h).2

theorem isGeneral_of_general? (h : f.general? = some d) : d.isGeneral = true := List.find?_some h

theorem particular_cons (h : d.isGeneral = false) : particular (d :: f) = d :: particular f :=
  List.filter_cons_of_pos (by rw [h]; rfl)

theorem particular_cons_general (h : d.isGeneral) : particular (d :: f) = particular f :=
  List.filter_cons_of_neg (by rw [h]; exact Bool.false_ne_true)

theorem general?_cons (h : d.isGeneral = false) : general? (d :: f) = general? f :=
  List.find?_cons_of_neg (by rw [h]; exact Bool.false_ne_true)

theorem general?_cons_general (h : d.isGeneral) : general? (d :: f) = some d :=
  List.find?_cons_of_pos h

/-- The general directive decides where no particular one does. -/
theorem decisive?_eq_or : f.decisive? c = (f.particular.decisive? c).or f.general? := by
  induction f with
  | nil => rfl
  | cons d rest ih =>
    have hOr := Directive.orAbove_or (d := d) (o := decisive? c (particular rest))
      fun g hg => isGeneral_of_general? (f := rest) hg
    rw [decisive?, ih, hOr]
    cases hGeneral : d.isGeneral with
    | true =>
      rw [particular_cons_general hGeneral, general?_cons_general hGeneral,
        if_pos (Directive.covers_of_isGeneral hGeneral)]
      cases hDecisive : decisive? c (particular rest) with
      | none => rfl
      | some e =>
        obtain ⟨hMem, hCovers⟩ := covers_of_decisive? hDecisive
        have hParticular := isGeneral_of_mem_particular (f := rest) hMem
        rw [Directive.orAbove, if_pos (Directive.general_isBelow hGeneral hParticular hCovers)]
        rfl
    | false =>
      rw [particular_cons hGeneral, general?_cons hGeneral, decisive?]
      split
      · rfl
      · rfl

theorem admits_eq_or (f : Filter) :
    f.admits c = ((f.particular.decisive? c).or f.general?).any (·.lets c.level) := by
  rw [admits, decisive?_eq_or]

theorem admits_congr (hParticular : f.particular = f'.particular)
    (hGeneral : f.general? = f'.general?) : f.admits c = f'.admits c := by
  rw [admits_eq_or, admits_eq_or, hParticular, hGeneral]

theorem particular_add_general (h : d.isGeneral) : (f.add d).particular = f.particular := by
  rw [add, particular, List.filter_append, List.filter_filter]
  change _ ++ particular [d] = _
  rw [particular_cons_general h]
  simp only [Directive.replaces_of_isGeneral h, Bool.and_self]
  exact List.append_nil _

theorem particular_add (h : d.isGeneral = false) : (f.add d).particular = f.particular.add d := by
  rw [add, add, particular, particular, List.filter_append, List.filter_filter, List.filter_filter]
  change _ ++ particular [d] = _
  rw [particular_cons h]
  simp only [Bool.and_comm]
  rfl

theorem general?_add_general (h : d.isGeneral) : (f.add d).general? = some d := by
  have hGone : (f.filter (!d.replaces ·)).find? Directive.isGeneral = none := by
    refine List.find?_eq_none.mpr fun e he => ?_
    have hKept := (List.mem_filter.mp he).2
    rw [Directive.replaces_of_isGeneral h, Bool.not_eq_true'] at hKept
    exact Bool.eq_false_iff.mp hKept
  rw [add, general?, List.find?_append, hGone, Option.none_or, List.find?_cons_of_pos h]

theorem general?_add (h : d.isGeneral = false) : (f.add d).general? = f.general? := by
  have hKept : (fun e : Directive => decide ((!d.replaces e) = true ∧ e.isGeneral = true)) =
      Directive.isGeneral := by
    funext e
    cases hReplaces : d.replaces e with
    | false => simp
    | true => simp [Directive.isGeneral_eq_of_replaces hReplaces, h]
  rw [add, general?, List.find?_append, List.find?_filter, hKept]
  change Option.or _ (general? [d]) = _
  rw [general?_cons h]
  exact Option.or_none

/-- A directive takes the place of one for the same target, span and field. -/
theorem mem_add : e ∈ f.add d ↔ (e ∈ f ∧ d.replaces e = false) ∨ e = d := by
  rw [add, List.mem_append, List.mem_filter, List.mem_singleton, Bool.not_eq_true']

theorem ofList_concat : ofList (ds ++ [d]) = (ofList ds).add d := List.foldl_concat ..

theorem mem_of_mem_ofList (h : d ∈ ofList ds) : d ∈ ds := by
  induction ds using List.reverseRecOn with
  | nil => exact h
  | append_singleton ds last ih =>
    rw [ofList_concat] at h
    rcases mem_add.mp h with ⟨hEarlier, -⟩ | rfl
    · exact List.mem_append_left _ (ih hEarlier)
    · exact List.mem_concat_self

/-- What is added for all events leaves no trace in the particular part. -/
theorem particular_ofList :
    (ofList ds).particular = ofList (ds.filter (!·.isGeneral)) := by
  induction ds using List.reverseRecOn with
  | nil => rfl
  | append_singleton ds last ih =>
    rw [ofList_concat, List.filter_append]
    cases hLast : last.isGeneral with
    | true =>
      rw [particular_add_general hLast, ih, List.filter_cons_of_neg (by simp [hLast]),
        List.filter_nil, List.append_nil]
    | false =>
      rw [particular_add hLast, ih, List.filter_cons_of_pos (by simp [hLast]), List.filter_nil,
        ofList_concat]

/-- Of the directives for all events the last one stays. -/
theorem general?_ofList :
    (ofList ds).general? = (ds.filter (·.isGeneral)).getLast? := by
  induction ds using List.reverseRecOn with
  | nil => rfl
  | append_singleton ds last ih =>
    rw [ofList_concat, List.filter_append]
    cases hLast : last.isGeneral with
    | true =>
      rw [general?_add_general hLast, List.filter_cons_of_pos hLast, List.filter_nil,
        List.getLast?_concat]
    | false =>
      rw [general?_add hLast, ih, List.filter_cons_of_neg (by simp [hLast]), List.filter_nil,
        List.append_nil]

/-- What is for all events, once the directives after some `d` for all events are added as well. -/
theorem general?_ofList_append_cons {es : List Directive} (h : d.isGeneral) :
    (ofList (ds ++ d :: es)).general? = some ((es.filter (·.isGeneral)).getLast?.getD d) := by
  rw [general?_ofList, List.filter_append, List.filter_cons_of_pos h, List.getLast?_append,
    List.getLast?_cons, Option.some_or]

end Filter

end ScriptBridge
