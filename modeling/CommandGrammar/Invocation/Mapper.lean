import CommandGrammar.Collection.Assoc
import CommandGrammar.Invocation

/-!
# Mappers

A mapper gives an argument its value in an invocation. Its word is final: where it gives none, the
raw value does not step in. An argument without a mapper has its raw value.

A mapper may ask for the values of other arguments, and so set other mappers to work. It is asked in
the invocation at hand, where nothing stops it from asking for its own argument, be it through other
mappers; then asking never ends, and there is no value to give.

`resolveWith` gives a value there as well, so that it is total: it sets a mapper aside while that one
runs, and so has one mapper fewer at every step. That is a stand-in. Where asking comes to an end
(`Mappers.Terminates`), the value is the one that the mapper gives in the invocation at hand
(`Invocation.resolve_of_terminates`); where it does not, the raw value that an argument has for its own
mapper stands for no answer at all.
-/

set_option autoImplicit false

namespace CommandGrammar

variable {m : Type → Type} {κ ε : Type}

/-- Gives an argument its value in an invocation, or none. -/
abbrev Mapper (m : Type → Type) (κ ε : Type) : Type :=
  Invocation m κ ε → m (Option (Value ε))

/-- The mappers in force at a place, by the name of their argument. -/
abbrev Mappers (m : Type → Type) (κ ε : Type) : Type :=
  List (String × Mapper m κ ε)

/-- Setting a mapper aside leaves fewer of them. -/
theorem length_erase_lt_of_lookup {α : Type} {id : String} {entries : List (String × α)} {value : α}
    (found : entries.lookup id = some value) :
    (Assoc.erase id entries).length < entries.length := by
  induction entries with
  | nil => cases found
  | cons entry rest ih =>
    obtain ⟨key, held⟩ := entry
    unfold Assoc.erase
    rw [List.filter_cons]
    by_cases hk : key = id
    · have shorter := List.length_filter_le (fun other : String × α => other.1 != id) rest
      simp only [hk, bne_self_eq_false, Bool.false_eq_true, if_false, List.length_cons]
      omega
    · have hb : (id == key) = false := by simpa using Ne.symm hk
      rw [List.lookup_cons, hb] at found
      have shorter := ih found
      unfold Assoc.erase at shorter
      simp only [bne_iff_ne.mpr hk, if_true, List.length_cons]
      omega

/-- The value of an argument: its mapper's if it has one, and its raw value otherwise. A mapper is set
aside while it runs. -/
def resolveWith [Monad m] (sender : Sender m κ) (input : String) (arguments : Bindings)
    (ids : List String) (mappers : Mappers m κ ε) (id : String) : m (Option (Value ε)) :=
  match _found : mappers.lookup id with
  | none => pure ((arguments.lookup id).map fun binding => .raw binding.value)
  | some mapper =>
    mapper
      { sender, input, arguments
        mapperIds := ids
        resolve := fun other =>
          resolveWith sender input arguments ids (Assoc.erase id mappers) other }
termination_by mappers.length
decreasing_by exact length_erase_lt_of_lookup ‹_›

/-- The invocation of a line with the arguments parsed from it and the mappers in force. -/
def Invocation.of [Monad m] (sender : Sender m κ) (input : String) (arguments : Bindings)
    (mappers : Mappers m κ ε) : Invocation m κ ε :=
  { sender, input, arguments
    mapperIds := Assoc.names mappers
    resolve := resolveWith sender input arguments (Assoc.names mappers) mappers }

end CommandGrammar
