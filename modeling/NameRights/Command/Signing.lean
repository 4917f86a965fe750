/- NameRights/Command/Signing
   digest: Registering a name, and assigning a privilege. -/

import NameRights.Command.Inquiry

set_option autoImplicit false
set_option relaxedAutoImplicit false

namespace NameRights.Command

def reportSent (transaction : Hash) : Task Unit :=
  Task.say ("Transaction sent: " ++ transaction.hex)

/-- Registers a name for an owner, for some seconds, if the registry says that it is available. -/
def register (context : Context) (name : String) (owner : Address) (duration : Word) :
    Task Unit := do
  let registry ← Task.required .registryMissing context.registry
  let key ← Task.signer context
  let available ← Task.chain .contract
    (Client.call registry (Registry.Read.available (labelHash name)).call plainCall)
  if available then do
    let transaction ← Task.chain .registering (Client.transact registry
      (Registry.Write.register name owner duration).invocation (.signed key .none))
    reportSent transaction
  else
    Session.fail (.notAvailable name)

def setPrivilege (context : Context) (tokenId privilegeId : Word) (user : Address)
    (expires : Word) : Task Unit := do
  let privilege ← Task.required .privilegeMissing context.privilege
  let key ← Task.signer context
  let transaction ← Task.chain .assigning (Client.transact privilege
    (Privilege.Write.setPrivilege tokenId privilegeId user expires).invocation (.signed key .none))
  reportSent transaction

end NameRights.Command
