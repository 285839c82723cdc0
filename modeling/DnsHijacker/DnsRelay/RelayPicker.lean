import DnsHijacker.Library.Tickets

/-!
# The relay of a query

`RelayPicker` hands out its relay instances in turn.  Its cursor is an atomic counter, and which
instance a call gets depends on nothing but the value the call has drawn from it.
-/

namespace DnsHijacker.DnsRelay

open DnsHijacker.Library

/-- `RelayPicker`; `new` refuses an empty list. -/
structure RelayPicker (RelayInstance : Type) where
  instances : List RelayInstance
  lastIdx : UInt64
  nonempty : instances ≠ []

namespace RelayPicker

variable {RelayInstance : Type}

theorem length_pos (picker : RelayPicker RelayInstance) : 0 < picker.instances.length :=
  List.length_pos_of_ne_nil picker.nonempty

/-- `pick`, and the picker after it. -/
def pick (picker : RelayPicker RelayInstance) : RelayInstance × RelayPicker RelayInstance :=
  let idx := picker.lastIdx.toNat % picker.instances.length
  (picker.instances.get ⟨idx, Nat.mod_lt _ picker.length_pos⟩,
    { picker with lastIdx := picker.lastIdx + 1 })

/-- The picker when its counter has this value. -/
def atTicket (picker : RelayPicker RelayInstance) (ticket : UInt64) : RelayPicker RelayInstance :=
  { picker with lastIdx := ticket }

/-- The number of the instance that is picked with a ticket. -/
def slot (picker : RelayPicker RelayInstance) (ticket : UInt64) : Fin picker.instances.length :=
  Tickets.slot picker.length_pos ticket

/-- A call takes the instance of its ticket and leaves the next ticket. -/
theorem pick_atTicket (picker : RelayPicker RelayInstance) (ticket : UInt64) :
    (picker.atTicket ticket).pick =
      (picker.instances.get (picker.slot ticket), picker.atTicket (ticket + 1)) :=
  rfl

end RelayPicker

end DnsHijacker.DnsRelay
