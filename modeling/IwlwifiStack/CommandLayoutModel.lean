import IwlwifiStack.CommandQueueModel

/-!
# The bytes of a host command

What `iwl_pcie_enqueue_hcmd` copies to the buffer of its entry and what it hands to the device: the
first transfer buffer, the rest of what was copied, and the rest of each chunk that is mapped where
it is.  A transfer buffer of a TFD has twelve bits for its length.
-/

namespace IwlwifiStack

/-- One chunk of a command with its data. -/
structure HcmdChunk where
  data : List UInt8
  nocopy : Bool
  dup : Bool
  deriving DecidableEq, Repr

def HcmdChunk.fragment (chunk : HcmdChunk) : HcmdFragment where
  len := chunk.data.length
  nocopy := chunk.nocopy
  dup := chunk.dup

/-- A chunk that is not copied to the buffer of the entry. -/
def HcmdChunk.mapped (chunk : HcmdChunk) : Bool := chunk.nocopy || chunk.dup

/-- `struct iwl_host_cmd` with the parts of its ID and the data of its chunks. -/
structure HostCmdData where
  opcode : UInt8
  groupId : UInt8
  version : UInt8
  flags : CmdFlags
  chunks : List HcmdChunk

namespace HostCmdData

def hostCmd (cmd : HostCmdData) : IwlHostCmd where
  groupId := cmd.groupId.toNat
  flags := cmd.flags
  fragments := cmd.chunks.map HcmdChunk.fragment

/-- `cmd_size`, a `u16`. -/
def cmdSize (cmd : HostCmdData) : ℕ :=
  cmd.chunks.foldl (fun size chunk => (size + chunk.data.length) % 2 ^ 16)
    cmd.hostCmd.headerSize

def le16Octets (value : ℕ) : List UInt8 :=
  [UInt8.ofNat (value % 256), UInt8.ofNat (value / 256 % 256)]

/-- `struct iwl_cmd_header_wide` or `struct iwl_cmd_header` as it is set up. -/
def header (cmd : HostCmdData) (cmdQueue writePtr : ℕ) : List UInt8 :=
  let sequence := cmdQueue % 32 * 256 + writePtr % 256
  if cmd.groupId ≠ 0 then
    [cmd.opcode, cmd.groupId] ++ le16Octets sequence ++ le16Octets ((cmd.cmdSize + (2 ^ 16 - 8)) % 2 ^ 16) ++
      [0, cmd.version]
  else
    [cmd.opcode, 0] ++ le16Octets sequence

/-- The command as the device is to read it. -/
def octets (cmd : HostCmdData) (cmdQueue writePtr : ℕ) : List UInt8 :=
  cmd.header cmdQueue writePtr ++ cmd.chunks.flatMap HcmdChunk.data

end HostCmdData

/-- The second loop: what the buffer of the entry holds.  Of a chunk that is mapped as much is
copied as fits.  A `slot` longer than `TFD_MAX_PAYLOAD_SIZE` has run over the end of the buffer;
there the source goes on with a negative length, and nothing more is added here. -/
def copyChunks : List HcmdChunk → List UInt8 → List UInt8
  | [], slot => slot
  | chunk :: rest, slot =>
      if chunk.data = [] then copyChunks rest slot
      else if ¬chunk.mapped then copyChunks rest (slot ++ chunk.data)
      else
        copyChunks rest (slot ++
          chunk.data.take (min (tfdMaxPayloadSize - slot.length) chunk.data.length))

/-- The third loop: the rest of each chunk that is mapped, of the length in `cmdlen`. -/
def mappedChunks (chunks : List (HcmdChunk × ℕ)) : List (List UInt8) :=
  chunks.filterMap fun (chunk, cmdlen) =>
    if cmdlen ≠ 0 && chunk.mapped then
      some (chunk.data.drop (chunk.data.length - cmdlen))
    else none

/-- The transfer buffers in their order. -/
def transferBuffers (slot : List UInt8) (copySize : ℕ) (mapped : List (List UInt8)) :
    List (List UInt8) :=
  let tb0Size := min copySize iwlFirstTbSize
  slot.take tb0Size ::
    (if copySize > tb0Size then [(slot.drop tb0Size).take (copySize - tb0Size)] else []) ++ mapped

/-- What the device reads: `iwl_pcie_gen1_tfd_set_tb` keeps twelve bits of a length. -/
def tfdOctets (buffers : List (List UInt8)) : List UInt8 :=
  buffers.flatMap fun buffer => buffer.take (buffer.length % 2 ^ 12)

namespace HostCmdData

/-- The buffer of the entry behind the second loop. -/
def slot (cmd : HostCmdData) (cmdQueue writePtr : ℕ) : List UInt8 :=
  copyChunks cmd.chunks (cmd.header cmdQueue writePtr)

/-- The transfer buffers of a command that is accepted. -/
def buffers (cmd : HostCmdData) (layout : HcmdLayout) (cmdQueue writePtr : ℕ) :
    List (List UInt8) :=
  transferBuffers (cmd.slot cmdQueue writePtr)
    (copiedSize cmd.hostCmd.fragments cmd.hostCmd.headerSize)
    (mappedChunks (cmd.chunks.zip layout.cmdlen))

end HostCmdData

end IwlwifiStack
