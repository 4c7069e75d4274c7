/-!
# Fixed capacities of the wire format

Client and daemon exchange fixed-size structures. A text field is a byte buffer whose last byte is
reserved for a terminator, so the longest text it takes is one byte shorter than its capacity.
-/

namespace Supervisor.Wire

/-- Bytes of an identifier field. -/
def uuidSize : Nat := 16

/-- Capacity of a field for the name of a domain or network. -/
def nameCapacity : Nat := 50

/-- Capacity of a descriptor field. -/
def descriptorCapacity : Nat := 4096

/-- Capacity of a field for the name of a bridge interface. -/
def interfaceCapacity : Nat := 50

/-- Capacity of a failure message. -/
def messageCapacity : Nat := 1024

/-- Capacity of a processor model name. -/
def modelCapacity : Nat := 32

/-- Capacity of a file path. -/
def pathCapacity : Nat := 4096

/-- Entries of a listing. -/
def listingCapacity : Nat := 100

/-- Bytes of a frame's header: the tag and the payload size. -/
def headerSize : Nat := 8

/-- Bytes of the payload buffer: a listing of a hundred names after its count, rounded up to a
multiple of eight. -/
def payloadCapacity : Nat := 5008

/-- The longest text that fits a field of the given capacity, in bytes. -/
def longestText (capacity : Nat) : Nat := capacity - 1

end Supervisor.Wire
