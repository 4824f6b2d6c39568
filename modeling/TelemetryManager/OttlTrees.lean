import TelemetryManager.Library.BooleanText
import TelemetryManager.OttlExpressions

/-! Trees of conditions that are put together with the text helpers of the configuration builders.
`Not` looks at the first and the last character of a text only. -/
namespace TelemetryManager.Ottl

open BooleanText

/-- A comparison that is read as one. -/
structure Atom where
  text : String
  atomic : readText text = some [.atom text]
  head : text.toList.head? ≠ some '('

example : readText (isMatch "metric.name" "^(a and b)") =
    some [.atom (isMatch "metric.name" "^(a and b)")] := by decide +kernel

inductive Connective where
  | and
  | or
  deriving DecidableEq

def Connective.text : Connective → List String → String
  | .and => joinWithAnd
  | .or => joinWithOr

def Connective.holds : Connective → List Bool → Bool
  | .and => (·.all id)
  | .or => (·.any id)

inductive Tree where
  | atom (a : Atom)
  | join (op : Connective) (e : Tree) (es : List Tree)
  | not (e : Tree)

namespace Tree

@[induction_eliminator]
theorem induction {P : Tree → Prop} (atom : ∀ a, P (.atom a))
    (join : ∀ op e es, (∀ part ∈ e :: es, P part) → P (.join op e es))
    (not : ∀ e, P e → P (.not e)) : ∀ e, P e
  | .atom a => atom a
  | .join op e es => join op e es fun part _ => induction atom join not part
  | .not e => not e (induction atom join not e)
  termination_by e => sizeOf e
  decreasing_by
    · have hlt := List.sizeOf_lt_of_mem ‹part ∈ e :: es›
      simp at hlt ⊢
      omega
    · simp

section Fold

variable {β : Type} (atom : Atom → β) (join : Connective → β → List β → β) (not : Tree → β → β)

mutual

def fold : Tree → β
  | .atom a => atom a
  | .join op e es => join op (fold e) (folds es)
  | .not e => not e (fold e)

def folds : List Tree → List β
  | [] => []
  | e :: es => fold e :: folds es

end

theorem fold_join (op : Connective) (e : Tree) (es : List Tree) :
    fold atom join not (.join op e es) =
      join op (fold atom join not e) (es.map (fold atom join not)) := by
  have hfolds : folds atom join not es = es.map (fold atom join not) := by
    induction es with
    | nil => rfl
    | cons e es ih => rw [folds, ih, List.map_cons]
  rw [fold, hfolds]

end Fold

def text : Tree → String := fold Atom.text (fun op t ts => op.text (t :: ts)) fun _ => Ottl.not

def holds (v : String → Bool) : Tree → Bool :=
  fold (v ·.text) (fun op b bs => op.holds (b :: bs)) fun _ b => !b

/-- The text of the tree means the tree. -/
def Means (e : Tree) : Prop := ∀ v, evaluateText v e.text = some (e.holds v)

/-- The text starts with the parenthesis of a group. -/
def opens : Tree → Bool := fold (fun _ => false) (fun op b _ => op = .or || b) fun _ _ => false

/-- The text ends with a parenthesis. -/
def closes : Tree → Bool :=
  fold (fun a => a.text.toList.getLast? = some ')') (fun op b bs => op = .or || bs.getLastD b)
    fun _ _ => true

/-- What follows the first part of a conjunction. -/
def remainder : Tree → List Tree
  | .join .and e es => e.remainder ++ es
  | _ => []

/-- The values that are read from the text, of the first part and of what follows it. -/
def readings (v : String → Bool) : Tree → Bool × Bool :=
  fold (fun a => (v a.text, true))
    (fun op b bs => match op with
      | .and => (b.1, b.2 && bs.all fun b => b.1 && b.2)
      | .or => ((b :: bs).any fun b => b.1 && b.2, true))
    fun e b => if e.opens && e.closes then (!b.1, b.2) else (!(b.1 && b.2), true)

def reading (v : String → Bool) (e : Tree) : Bool := (e.readings v).1 && (e.readings v).2

variable {op : Connective} {e e' : Tree} {es : List Tree} {v : String → Bool}

theorem text_join : (Tree.join op e es).text = op.text ((e :: es).map text) := fold_join ..

theorem holds_join : (Tree.join op e es).holds v = op.holds ((e :: es).map (holds v)) :=
  fold_join ..

theorem readings_and : (Tree.join .and e es).readings v =
    ((e.readings v).1, (e.readings v).2 && es.all (reading v)) := by
  rw [readings, fold_join, List.all_map]
  rfl

theorem readings_or : (Tree.join .or e es).readings v = ((e :: es).any (reading v), true) := by
  rw [readings, fold_join, ← List.map_cons, List.any_map]
  rfl

theorem readings_not : e.not.readings v = if e.opens && e.closes then
    (!(e.readings v).1, (e.readings v).2) else (!e.reading v, true) := rfl

theorem text_and_nil : (Tree.join .and e []).text = e.text := by
  simp [text_join, Connective.text, joinWithAnd]

theorem text_and_cons :
    (Tree.join .and e (e' :: es)).text = e.text ++ " and " ++ (Tree.join .and e' es).text := by
  simp [text_join, Connective.text, joinWithAnd, String.intercalate_cons_cons]

theorem text_or : (Tree.join .or e es).text =
    "(" ++ " or ".intercalate ((e :: es).map text) ++ ")" := text_join

theorem text_not_cases (e : Tree) :
    (isWrappedInParentheses e.text ∧ e.not.text = "not" ++ e.text) ∨
      isWrappedInParentheses e.text = false ∧ e.not.text = "not" ++ ("(" ++ e.text ++ ")") := by
  have htext : e.not.text = Ottl.not e.text := rfl
  cases hwrapped : isWrappedInParentheses e.text <;>
    simp [htext, Ottl.not, hwrapped, ← String.append_assoc]

theorem head?_text (e : Tree) :
    ∃ c, e.text.toList.head? = some c ∧ (c = '(' ↔ e.opens) := by
  induction e with
  | atom a =>
    have hread := a.atomic
    have hhead := a.head
    cases htext : a.text.toList with
    | nil =>
      rw [readText, htext] at hread
      cases hread
    | cons c cs =>
      rw [htext] at hhead
      refine ⟨c, congrArg List.head? htext, iff_of_false ?_ Bool.false_ne_true⟩
      simpa using hhead
  | join op e es ih =>
    cases op with
    | and =>
      obtain ⟨c, hhead, hopens⟩ := ih e List.mem_cons_self
      refine ⟨c, ?_, hopens⟩
      cases es with
      | nil => rwa [text_and_nil]
      | cons e' es => simp [text_and_cons, List.head?_append, hhead]
    | or => exact ⟨'(', by simp [text_or], by simp [opens, fold]⟩
  | not e ih =>
    refine ⟨'n', ?_, by simp [opens, fold]⟩
    rcases text_not_cases e with ⟨-, h⟩ | ⟨-, h⟩ <;> simp [h]

theorem text_ne_nil (e : Tree) : e.text.toList ≠ [] := by
  obtain ⟨c, hhead, -⟩ := head?_text e
  intro hnil
  rw [hnil] at hhead
  cases hhead

theorem closes_iff (e : Tree) : e.closes ↔ e.text.toList.getLast? = some ')' := by
  have hparen : ∀ text : String, (text ++ ")").toList.getLast? = some ')' := by simp
  induction e with
  | atom a => exact decide_eq_true_iff
  | join op e es ih =>
    cases op with
    | or =>
      refine iff_of_true rfl ?_
      rw [text_or, hparen]
    | and =>
      induction es generalizing e with
      | nil =>
        rw [text_and_nil]
        simpa [closes, fold, folds] using ih e List.mem_cons_self
      | cons e' es ih' =>
        have hcloses : (Tree.join .and e (e' :: es)).closes = (Tree.join .and e' es).closes :=
          congrArg (false || ·) (List.getLastD_cons (a := e.closes))
        rw [hcloses, text_and_cons, String.toList_append,
          List.getLast?_append_of_ne_nil _ (text_ne_nil _)]
        exact ih' e' fun part hpart => ih part (List.mem_cons_of_mem e hpart)
  | not e ih =>
    refine iff_of_true rfl ?_
    rcases text_not_cases e with ⟨hwrapped, h⟩ | ⟨-, h⟩
    · have hlast := (Bool.and_eq_true_iff.mp hwrapped).2
      rw [List.isSuffixOf_iff_suffix, List.singleton_suffix_iff_getLast?_eq_some] at hlast
      rw [h, String.toList_append, List.getLast?_append_of_ne_nil _ (text_ne_nil e), hlast]
    · rw [h, ← String.append_assoc, hparen]

theorem isWrappedInParentheses_text (e : Tree) :
    isWrappedInParentheses e.text = (e.opens && e.closes) := by
  obtain ⟨c, hhead, hopens⟩ := head?_text e
  rw [Bool.eq_iff_iff, isWrappedInParentheses, Bool.and_eq_true, Bool.and_eq_true,
    List.isPrefixOf_iff_prefix, List.isSuffixOf_iff_suffix,
    List.singleton_prefix_iff_head?_eq_some, List.singleton_suffix_iff_getLast?_eq_some,
    closes_iff, ← hopens, hhead, Option.some.injEq]

/-- The text is read as a conjunction. If it starts with a group, `not` in front of it negates the
group. -/
theorem reads_text (v : String → Bool) (e : Tree) :
    ∃ tokens, readText e.text = some tokens ∧ ReadsConjunct v tokens (e.reading v) ∧
      (e.opens →
        ReadsConjunct v (.not :: tokens) (!(e.readings v).1 && (e.readings v).2)) := by
  induction e with
  | atom a =>
    have hatom : ReadsConjunct v [.atom a.text] (v a.text) := (ReadsOperand.atom a.text).conjunct
    rw [← Bool.and_true (v a.text)] at hatom
    exact ⟨_, a.atomic, hatom, nofun⟩
  | join op e es ih =>
    choose! tokens hread hconjunct hnot using ih
    rw [text_join, reading]
    cases op with
    | and =>
      rw [readings_and, ← Bool.and_assoc, ← Bool.and_assoc]
      refine ⟨_, Reader.readText_intercalate Reader.joins_and hread, ?_, fun hopens => ?_⟩
      · exact ReadsConjunct.intercalate hconjunct
      · have hfirst := hnot e List.mem_cons_self hopens
        cases es with
        | nil => simpa using hfirst
        | cons e' es =>
          have hrest := ReadsConjunct.intercalate (List.forall_mem_cons.mp hconjunct).2
          simpa [List.intercalate_cons_cons] using hfirst.and hrest
    | or =>
      have hgroup := (ReadsAlternative.intercalate fun part hpart =>
        (hconjunct part hpart).alternative).parenthesized
      rw [readings_or, Bool.and_true, Bool.and_true]
      exact ⟨_, Reader.readText_parenthesized (Reader.readText_intercalate Reader.joins_or hread),
        hgroup.conjunct, fun _ => hgroup.not⟩
  | not e ih =>
    obtain ⟨tokens, hread, hconjunct, hnot⟩ := ih
    obtain ⟨c, hhead, hc⟩ := head?_text e
    rw [reading, readings_not]
    rcases text_not_cases e with ⟨hwrapped, htext⟩ | ⟨hwrapped, htext⟩ <;>
      rw [isWrappedInParentheses_text] at hwrapped <;> rw [hwrapped, htext]
    · have hopens := (Bool.and_eq_true_iff.mp hwrapped).1
      rw [hc.mpr hopens] at hhead
      exact ⟨_, Reader.readText_not hhead hread, hnot hopens, nofun⟩
    · have hnegated := hconjunct.alternative.parenthesized.not
      rw [← Bool.and_true (!e.reading v)] at hnegated
      exact ⟨_, Reader.readText_not (by simp) (Reader.readText_parenthesized hread), hnegated,
        nofun⟩

theorem means_iff : e.Means ↔ ∀ v, e.reading v = e.holds v := by
  refine forall_congr' fun v => ?_
  obtain ⟨tokens, hread, hconjunct, -⟩ := reads_text v e
  rw [evaluateText, hread, Option.bind_some, hconjunct.alternative.value_eq, Option.some.injEq]

theorem means_join (h : ∀ part ∈ e :: es, part.Means) : (Tree.join op e es).Means := by
  have hreading : ∀ v, ∀ part ∈ e :: es, part.reading v = part.holds v := fun v part hpart =>
    means_iff.mp (h part hpart) v
  refine means_iff.mpr fun v => ?_
  rw [holds_join, List.map_congr_left fun part hpart => (hreading v part hpart).symm, reading]
  cases op with
  | and => simp [readings_and, Connective.holds, reading, Bool.and_assoc]
  | or => simp [readings_or, Connective.holds]

inductive IsPart : Tree → Tree → Prop where
  | self (e : Tree) : IsPart e e
  | join {r s e : Tree} {op : Connective} {es : List Tree} :
      s ∈ e :: es → IsPart r s → IsPart r (.join op e es)
  | not {r e : Tree} : IsPart r e → IsPart r (.not e)

theorem IsPart.trans {r s t : Tree} (h : IsPart r s) (h' : IsPart s t) : IsPart r t := by
  induction h' with
  | self => exact h
  | join hmem _ ih => exact .join hmem ih
  | not _ ih => exact .not ih

theorem isPart_of_mem_remainder {r : Tree} (h : r ∈ e.remainder) : IsPart r e := by
  induction e with
  | atom a => cases h
  | join op e es ih =>
    cases op with
    | and =>
      rcases List.mem_append.mp h with h | h
      · exact .join List.mem_cons_self (ih e List.mem_cons_self h)
      · exact .join (List.mem_cons_of_mem e h) (.self r)
    | or => cases h
  | not e ih => cases h

theorem readings_of_opens (hopens : e.opens) (hparts : ∀ r ∈ e.remainder, r.Means)
    (v : String → Bool) : (e.readings v).2 = e.remainder.all (holds v) := by
  induction e with
  | atom a => cases hopens
  | join op e es ih =>
    cases op with
    | and =>
      obtain ⟨he, hes⟩ := List.forall_mem_append.mp hparts
      have hreading : es.all (reading v) = es.all (holds v) := by
        rw [Bool.eq_iff_iff, List.all_eq_true, List.all_eq_true]
        exact forall₂_congr fun r hr => by rw [means_iff.mp (hes r hr) v]
      rw [readings_and, ih e List.mem_cons_self hopens he, hreading, remainder, List.all_append]
    | or => rw [readings_or]; rfl
  | not e ih => cases hopens

/-- Where the parentheses at the ends of a negated text belong to two groups, `not` binds to the
first one. -/
theorem means_not_iff (he : e.Means) (hparts : ∀ r ∈ e.remainder, r.Means) :
    e.not.Means ↔
      (e.opens → e.closes → ∀ v, ∀ r ∈ e.remainder, r.holds v) := by
  have hholds : ∀ v, e.not.holds v = !e.reading v := fun v =>
    congrArg (!·) (means_iff.mp he v).symm
  simp only [means_iff, hholds, reading, readings_not]
  by_cases hwrapped : (e.opens && e.closes)
  · obtain ⟨hopens, hcloses⟩ := Bool.and_eq_true_iff.mp hwrapped
    simp only [hopens, hcloses, true_implies, ← List.all_eq_true,
      ← readings_of_opens hopens hparts]
    refine forall_congr' fun v => ?_
    cases (e.readings v).1 <;> cases (e.readings v).2 <;> decide
  · simp only [if_neg hwrapped]
    refine iff_of_true (fun v => Bool.and_true _) fun hopens hcloses => ?_
    exact absurd (Bool.and_eq_true_iff.mpr ⟨hopens, hcloses⟩) hwrapped

/-- The texts of a tree and of its parts mean what they should, unless `Not` is applied to a
conjunction that starts with a group and ends with a parenthesis; then what follows the first group
must always hold. -/
theorem text_means_iff (t : Tree) :
    (∀ e, IsPart e t → e.Means) ↔
      ∀ e, IsPart (.not e) t → e.opens → e.closes →
        ∀ v, ∀ r ∈ e.remainder, r.holds v := by
  constructor
  · intro hmeans e hpart
    have hchild : ∀ r, IsPart r e → r.Means := fun r hr => hmeans r (hr.not.trans hpart)
    exact (means_not_iff (hchild e (.self e)) fun r hr =>
      hchild r (isPart_of_mem_remainder hr)).mp (hmeans e.not hpart)
  · intro hrest
    induction t with
    | atom a =>
      rintro e ⟨⟩
      exact means_iff.mpr fun v => Bool.and_true _
    | join op e es ih =>
      have hparts : ∀ part ∈ e :: es, ∀ r, IsPart r part → r.Means := fun part hpart =>
        ih part hpart fun r hr => hrest r (.join hpart hr)
      rintro r (_ | ⟨hpart, hr⟩)
      · refine means_join fun part hpart => hparts part hpart part (.self part)
      · exact hparts _ hpart r hr
    | not e ih =>
      have hparts := ih fun r hr => hrest r hr.not
      rintro r (_ | _ | hr)
      · exact (means_not_iff (hparts e (.self e)) fun r hr =>
          hparts r (isPart_of_mem_remainder hr)).mpr (hrest e (.self _))
      · exact hparts r hr

/-- `not` negates the first of the two groups only. -/
theorem negated_groups_misread :
    let a : Tree := .atom ⟨namespaceEquals "a", by decide +kernel, by decide +kernel⟩
    let b : Tree := .atom ⟨namespaceEquals "b", by decide +kernel, by decide +kernel⟩
    let c : Tree := .atom ⟨namespaceEquals "c", by decide +kernel, by decide +kernel⟩
    let d : Tree := .atom ⟨namespaceEquals "d", by decide +kernel, by decide +kernel⟩
    let e : Tree := .not (.join .and (.join .or a [b]) [.join .or c [d]])
    e.text = "not" ++ joinWithOr [a.text, b.text] ++ " and " ++ joinWithOr [c.text, d.text] ∧
      ¬ e.Means := by
  intro a b c d e
  refine ⟨?_, fun hmeans => ?_⟩
  · rcases text_not_cases (.join .and (.join .or a [b]) [.join .or c [d]]) with ⟨-, h⟩ | ⟨h, -⟩
    · simp [e, h, text_join, Connective.text, joinWithAnd, String.append_assoc]
    · cases h.symm.trans (isWrappedInParentheses_text _)
  · exact absurd (means_iff.mp hmeans fun _ => false) Bool.false_ne_true

end Tree

end TelemetryManager.Ottl
