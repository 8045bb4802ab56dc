import HttpTemplate.Proofs.Coercion

/-! Defaults as arguments. A variable sees of its arguments only what it starts from, and passing the
default text of an absent name is no other start than leaving the name out. -/

namespace HttpTemplate.Defaults

open Coercion Parameters

def DefaultsTo (n : Node) (name text : String) : Prop :=
  ∀ v ∈ n.occurrences, v.name = name → v.default = some text

section Sources

variable {v : Variable} {es ds : Table} {name text : String}

lemma resolve_congr_source (h : source? v es = source? v ds) :
    v.resolve (.map es) = v.resolve (.map ds) := by
  cases hsource : source? v ds with
  | none => rw [resolve_of_no_source (h.trans hsource), resolve_of_no_source hsource]
  | some value => rw [resolve_of_source (h.trans hsource), resolve_of_source hsource]

lemma source_put_of_ne (h : v.name ≠ name) (w : Value) :
    source? v (Entries.put (.str name) w es) = source? v es := by
  have hkey : Value.str name ≠ .str v.name := fun heq => h (Value.str.inj heq).symm
  rw [source?, source?, get?_put_of_ne_str hkey]

lemma source_put_default (habsent : Entries.get? (.str name) es = none)
    (h : v.name = name → v.default = some text) :
    source? v (Entries.put (.str name) (.str text) es) = source? v es := by
  by_cases hname : v.name = name
  · rw [source?, source?, h hname, hname, get?_put_str, habsent]
    rfl
  · exact source_put_of_ne hname _

end Sources

theorem substitute_put_default (n : Node) (es : Table) (name text : String)
    (habsent : Entries.get? (.str name) es = none) (hdefault : DefaultsTo n name text) :
    n.substitute (.map (Entries.put (.str name) (.str text) es)) = n.substitute (.map es) := by
  apply substitute_congr
  intro v hv
  exact resolve_congr_source (source_put_default habsent (hdefault v hv))

def booking : Node :=
  .compile (.map [(.str "seats", .str "{!n=2:number}"), (.str "note", .str "for {n=2} of {all:number}"),
    (.str "flags", .list [.str "{^n=2:boolean}", .str "{n=2}{!who}"])])

lemma defaultsTo_booking : DefaultsTo booking "n" "2" := by
  have hall : booking.occurrences.all fun v => v.name != "n" || v.default == some "2" := by
    decide +kernel
  intro v hv hname
  simpa [hname] using List.all_eq_true.mp hall v hv

theorem booking_put_default :
    let es : Table := [(.str "all", .int 9)]
    Entries.get? (.str "n") es = none ∧ DefaultsTo booking "n" "2" ∧
      booking.substitute (.map [(.str "all", .int 9), (.str "n", .str "2")]) =
        booking.substitute (.map es) := by
  intro es
  exact ⟨rfl, defaultsTo_booking, substitute_put_default booking es "n" "2" rfl defaultsTo_booking⟩

end HttpTemplate.Defaults
