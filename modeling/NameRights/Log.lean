/- NameRights/Log
   digest: Logs that contracts leave on the chain. -/

import NameRights.Word

set_option autoImplicit false
set_option relaxedAutoImplicit false

namespace NameRights

abbrev Count := BitVec 64

/-- A log: who wrote it, its topics, its data, and where it stands, as far as that is known. -/
structure Log where
  address : Address
  topics : List Hash
  data : Bytes
  blockHash : Option Hash
  blockNumber : Option Count
  transactionHash : Option Hash
  transactionIndex : Option Count
  logIndex : Option Word
  transactionLogIndex : Option Word
  logType : Option String
  removed : Option Bool
  deriving DecidableEq, Repr

end NameRights
