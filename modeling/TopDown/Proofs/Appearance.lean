import Mathlib.Data.List.Induction
import TopDown.Proofs.Display
import TopDown.Proofs.RuleSymbols
/-!
Symbols in the order of their appearance. Both classes of symbols are sets that are filled from front to back, and a
member put in again keeps its place: what was seen first stands first. The end mark is put in last of all, so it stands
last unless a terminal is written like it and appears before another terminal does.
-/

set_option autoImplicit false

namespace TopDown

section Seen

variable {α : Type} [DecidableEq α]

/-- The values of a list, each once, in the order in which they first occur. -/
structure FirstSeen (occurrences seen : List α) : Prop where
  once : seen.Nodup
  all : ∀ value, value ∈ seen ↔ value ∈ occurrences
  ascending : seen.Pairwise fun earlier later => occurrences.idxOf earlier < occurrences.idxOf later

theorem ascending_further (occurrences seen : List α) (value : α) (before : FirstSeen occurrences seen) :
    seen.Pairwise fun earlier later =>
      (occurrences ++ [value]).idxOf earlier < (occurrences ++ [value]).idxOf later := by
  refine before.ascending.imp_of_mem fun {earlier later} one other less => ?_
  rwa [List.idxOf_append_of_mem ((before.all earlier).mp one), List.idxOf_append_of_mem ((before.all later).mp other)]

theorem first_seen_again (occurrences seen : List α) (value : α) (before : FirstSeen occurrences seen)
    (known : value ∈ seen) : FirstSeen (occurrences ++ [value]) seen where
  once := before.once
  all other := by
    rw [List.mem_append, before.all other, List.mem_singleton]
    refine (or_iff_left_of_imp ?_).symm
    intro same
    rw [same]
    exact (before.all value).mp known
  ascending := ascending_further occurrences seen value before

theorem first_seen_new (occurrences seen : List α) (value : α) (before : FirstSeen occurrences seen)
    (new : value ∉ seen) : FirstSeen (occurrences ++ [value]) (seen ++ [value]) where
  once := List.nodup_append_comm.mp (List.nodup_cons.mpr ⟨new, before.once⟩)
  all other := by rw [List.mem_append, List.mem_append, before.all other]
  ascending := by
    have unseen : value ∉ occurrences := fun member => new ((before.all value).mpr member)
    refine List.pairwise_append.mpr ⟨ascending_further occurrences seen value before, List.pairwise_singleton _ _, ?_⟩
    intro earlier known later last
    have old := (before.all earlier).mp known
    rw [List.mem_singleton.mp last, List.idxOf_append_of_mem old,
      List.idxOf_append_of_notMem unseen, List.idxOf_cons_self, Nat.add_zero]
    exact List.idxOf_lt_length_of_mem old

namespace OrderedSet

theorem first_seen_insert (occurrences : List α) (set : OrderedSet α) (value : α)
    (before : FirstSeen occurrences set.toList) : FirstSeen (occurrences ++ [value]) (set.insert value).toList := by
  rw [to_list_insert]
  by_cases known : value ∈ set
  · rw [if_pos known]
    exact first_seen_again occurrences set.toList value before known
  · rw [if_neg known]
    exact first_seen_new occurrences set.toList value before known

theorem insert_all_concat (set : OrderedSet α) (values : List α) (value : α) :
    set.insertAll (values ++ [value]) = (set.insertAll values).insert value := List.foldl_concat ..

theorem first_seen_of_list (values : List α) : FirstSeen values (ofList values).toList := by
  induction values using List.reverseRecOn with
  | nil => exact ⟨List.nodup_nil, fun value => Iff.rfl, List.Pairwise.nil⟩
  | append_singleton values value ih =>
      rw [ofList, insert_all_concat]
      exact first_seen_insert values _ value ih

-- Values put into a set come behind its members, as far as they are new to it.
theorem to_list_insert_all (set : OrderedSet α) (values : List α) :
    (set.insertAll values).toList = set.toList ++ (ofList (values.filter (· ∉ set))).toList := by
  induction values using List.reverseRecOn with
  | nil => exact (List.append_nil _).symm
  | append_singleton values value ih =>
      have known := mem_insert_all set values value
      rw [insert_all_concat, to_list_insert, List.filter_append]
      by_cases old : value ∈ set
      · rw [if_pos (known.mpr (Or.inl old)), ih, List.filter_cons_of_neg (by simpa using old), List.filter_nil,
          List.append_nil]
      · have listed := mem_of_list (values.filter (· ∉ set)) value
        rw [List.filter_cons_of_pos (by simpa using old), List.filter_nil, ofList, insert_all_concat, to_list_insert,
          ← ofList]
        by_cases seen : value ∈ values
        · rw [if_pos (known.mpr (Or.inr seen)), if_pos (listed.mpr (by simp [seen, old])), ih]
        · have fresh : value ∉ values.filter (· ∉ set) := fun member => seen (List.mem_filter.mp member).1
          rw [if_neg (by simp [known, old, seen]), if_neg (fun member => fresh (listed.mp member)), ih,
            List.append_assoc]

end OrderedSet

-- The value seen last is the one behind which nothing new occurs.
theorem last_iff_none_behind (occurrences seen : List α) (value : α) (listed : FirstSeen occurrences seen)
    (known : value ∈ occurrences) :
    seen.getLast? = some value ↔ ∀ other ∈ occurrences, occurrences.idxOf other ≤ occurrences.idxOf value := by
  constructor
  · intro last other member
    obtain ⟨front, rfl⟩ := List.getLast?_eq_some_iff.mp last
    have before := (List.pairwise_append.mp listed.ascending).2.2
    rcases List.mem_append.mp ((listed.all other).mpr member) with early | final
    · exact Nat.le_of_lt (before other early value List.mem_cons_self)
    · exact Nat.le_of_eq (congrArg occurrences.idxOf (List.mem_singleton.mp final))
  · intro none
    obtain ⟨front, back, rfl⟩ := List.append_of_mem ((listed.all value).mpr known)
    cases back with
    | nil => exact List.getLast?_concat ..
    | cons next further =>
        have behind := (List.pairwise_cons.mp (List.pairwise_append.mp listed.ascending).2.1).1 next List.mem_cons_self
        have member := (listed.all next).mp (by simp)
        exact absurd (none next member) (Nat.not_le.mpr behind)

end Seen

namespace Grammar

variable (grammar : Grammar)

-- The left sides of the rules, and what the right sides name, as often as they stand there.
def lefts : List Char := grammar.rules.map (·.left)

def named : List Char := grammar.symbols.filterMap Symbol.nonTerminal?

def written : List Char := grammar.symbols.filterMap Symbol.terminal?

theorem first_seen_non_terminals : ∃ defined others, grammar.nonTerminals.toList = defined ++ others ∧
    FirstSeen grammar.lefts defined ∧ FirstSeen (grammar.named.filter (· ∉ grammar.lefts)) others := by
  refine ⟨_, _, OrderedSet.to_list_insert_all _ _, OrderedSet.first_seen_of_list _, ?_⟩
  have undefined : grammar.named.filter (· ∉ grammar.defined) = grammar.named.filter (· ∉ grammar.lefts) :=
    List.filter_congr fun char _ => decide_eq_decide.mpr (not_congr (OrderedSet.mem_of_list grammar.lefts char))
  rw [← undefined]
  exact OrderedSet.first_seen_of_list _

theorem first_seen_terminals : FirstSeen (grammar.written ++ [endMark]) grammar.terminals.toList :=
  OrderedSet.first_seen_insert grammar.written _ endMark (OrderedSet.first_seen_of_list grammar.written)

-- An end mark that appears among the terminals takes its place there.
theorem end_mark_last_iff : grammar.terminals.toList.getLast? = some endMark ↔
    ∀ char ∈ grammar.written, grammar.written.idxOf char ≤ grammar.written.idxOf endMark := by
  have place (char : Char) (member : char ∈ grammar.written) :
      (grammar.written ++ [endMark]).idxOf char = grammar.written.idxOf char := List.idxOf_append_of_mem member
  have mark : (grammar.written ++ [endMark]).idxOf endMark = grammar.written.idxOf endMark := by
    by_cases marked : endMark ∈ grammar.written
    · exact place endMark marked
    · rw [List.idxOf_append_of_notMem marked, List.idxOf_cons_self, Nat.add_zero, List.idxOf_eq_length marked]
  rw [last_iff_none_behind _ _ endMark grammar.first_seen_terminals (by simp), mark]
  constructor
  · intro none char member
    rw [← place char member]
    exact none char (List.mem_append_left _ member)
  · intro none char member
    rcases List.mem_append.mp member with early | final
    · rw [place char early]
      exact none char early
    · rw [List.mem_singleton.mp final]
      exact Nat.le_of_eq mark

theorem end_mark_last_of_text (text : String) (read : ofText text = .ok grammar) :
    grammar.terminals.toList.getLast? = some endMark := by
  have marked : endMark ∉ grammar.written := by
    intro member
    obtain ⟨symbol, known, same⟩ := List.mem_filterMap.mp member
    cases symbol with
    | terminal char => exact grammar.unmarked_of_text text read _ known (Option.some.inj same)
    | _ => cases same
  refine grammar.end_mark_last_iff.mpr fun char _ => ?_
  rw [List.idxOf_eq_length marked]
  exact List.idxOf_le_length

/-- Non-terminals, terminals and the columns of tables by appearance, and where the end mark stands among them. -/
theorem symbols_by_appearance :
    (∃ defined others, grammar.nonTerminals.toList = defined ++ others ∧ FirstSeen grammar.lefts defined ∧
      FirstSeen (grammar.named.filter (· ∉ grammar.lefts)) others) ∧
    FirstSeen (grammar.written ++ [endMark]) grammar.terminals.toList ∧
    (∀ first follow, (Table.build grammar first follow).terminals = grammar.terminals) ∧
    (grammar.terminals.toList.getLast? = some endMark ↔
      ∀ char ∈ grammar.written, grammar.written.idxOf char ≤ grammar.written.idxOf endMark) ∧
    ∀ text, ofText text = .ok grammar → grammar.terminals.toList.getLast? = some endMark :=
  ⟨grammar.first_seen_non_terminals, grammar.first_seen_terminals,
    fun first follow => (Table.kept_claims (Table.claims grammar first follow) (.empty grammar)).2,
    grammar.end_mark_last_iff, grammar.end_mark_last_of_text⟩

-- A terminal is written like the end mark and seen before another terminal.
def markedFirst : Grammar where
  rules := [⟨'S', [[.terminal endMark, .terminal 'a']]⟩]

theorem end_mark_overtaken :
    markedFirst.terminals.toList = [endMark, 'a'] ∧ markedFirst.terminals.toList.getLast? ≠ some endMark := by
  decide

end Grammar

end TopDown
