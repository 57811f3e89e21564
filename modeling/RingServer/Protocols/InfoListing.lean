import RingServer.Protocols.InfoXml

set_option autoImplicit false

namespace RingServer

open Library Xml

inductive Listing where
  | info (type : Text) (client : ClientInfo) (matchexpr : Option Text) (stk : List RingStream)
  | identity
  | capabilities
  | stations (includeStreams : Bool) (targetStation : Option Text) (streams : List RingStream)
  | connections

namespace DataLink

section

variable (listed : Listed)

def clientTexts (tc : ClientStatus) : List Text :=
  [tc.hostname, tc.ipStr, tc.portStr, tc.clientId] ++ (tc.matchStr.toList ++ tc.rejectStr.toList)

def threadTexts (thread : ServerThread) : List Text :=
  match thread.params with
  | some (.listen lpp _) => [lpp.portStr]
  | _ => []

def sectionTexts (type : Text) (client : ClientInfo) (matchexpr : Option Text) (stk : List RingStream) : List Text :=
  if type = "STATUS".toList ∧ client.trusted then listed.params.sthreads.flatMap threadTexts
  else if type = "STREAMS".toList then (selectedStreams listed matchexpr stk).map (·.streamId)
  else if type = "CONNECTIONS".toList then (selectedClients listed matchexpr).flatMap clientTexts
  else []

end

end DataLink

namespace SeedLink

section

variable (listed : Listed)

def streamTag (s : RingStream) : Tag := .empty "stream".toList (streamValues id listed s)

def stationTags (includeStreams : Bool) (streams : List RingStream) (key : Text) : List Tag :=
  let own := Grouping.having stationKey streams key
  .start "station".toList (stationValues id key own) ::
    ((if includeStreams then own.map (streamTag listed) else []) ++ [.finish "station".toList])

def targetKeys (targetStation : Option Text) (streams : List RingStream) : List Text :=
  (Grouping.keys stationKey streams).filter (isTarget targetStation)

def connectionTag (tc : ClientStatus) : Tag := .empty "connection".toList (connectionValues id listed tc)

def clientTags (tc : ClientStatus) : List Tag :=
  [.start "station".toList (clientValues tc), connectionTag listed tc, .finish "station".toList]

end

end SeedLink

namespace Listing

section

variable (listed : Listed)

def xml : Listing → Text
  | .info type client matchexpr stk => DataLink.generateInfoXml listed type client matchexpr stk
  | .identity => SeedLink.buildInfoIdXml listed
  | .capabilities => SeedLink.buildInfoCapabilitiesXml listed
  | .stations includeStreams targetStation streams => SeedLink.buildInfoStreamsXml listed includeStreams targetStation streams
  | .connections => SeedLink.buildInfoConnectionsXml listed

-- What the document is to say: its elements with the values themselves, each stream in the
-- station of its key.
def document : Listing → List Tag
  | .info type client matchexpr stk => DataLink.infoTags listed type client matchexpr stk
  | .identity => [.empty "seedlink".toList (SeedLink.seedlinkValues id listed)]
  | .capabilities =>
      .start "seedlink".toList (SeedLink.seedlinkValues id listed) ::
        (SeedLink.capabilityNames.map SeedLink.capabilityTag ++ [.finish "seedlink".toList])
  | .stations includeStreams targetStation streams =>
      .start "seedlink".toList (SeedLink.seedlinkValues id listed) ::
        ((SeedLink.targetKeys targetStation streams).flatMap (SeedLink.stationTags listed includeStreams streams) ++
          [.finish "seedlink".toList])
  | .connections =>
      .start "seedlink".toList (SeedLink.seedlinkValues id listed) ::
        ((SeedLink.activeClients listed).flatMap (SeedLink.clientTags listed) ++ [.finish "seedlink".toList])

def rows : Listing → List Tag
  | .info type client matchexpr stk =>
      if type = "STATUS".toList ∧ client.trusted then []
      else if type = "STREAMS".toList then (DataLink.selectedStreams listed matchexpr stk).map (DataLink.streamTag listed)
      else if type = "CONNECTIONS".toList then (DataLink.selectedClients listed matchexpr).map (DataLink.connectionTag listed)
      else []
  | .identity => []
  | .capabilities => []
  | .stations includeStreams targetStation streams =>
      if includeStreams then
        (streams.filter fun s => SeedLink.isTarget targetStation (SeedLink.stationKey s)).map (SeedLink.streamTag listed)
      else []
  | .connections => (SeedLink.activeClients listed).map (SeedLink.connectionTag listed)

def supplied : Listing → List Text
  | .info type client matchexpr stk =>
      listed.serverId.getD "Ring Server".toList :: DataLink.sectionTexts listed type client matchexpr stk
  | .identity => [listed.serverId.getD "RingServer".toList]
  | .capabilities => [listed.serverId.getD "RingServer".toList]
  | .stations _ targetStation streams =>
      listed.serverId.getD "RingServer".toList ::
        (streams.filter fun s => SeedLink.isTarget targetStation (SeedLink.stationKey s)).map (·.streamId)
  | .connections =>
      listed.serverId.getD "RingServer".toList :: (SeedLink.activeClients listed).flatMap fun tc => [tc.hostname, tc.portStr]

def ofSeedLink : Listing → Bool
  | .info _ _ _ _ => false
  | _ => true

end

def isRow (tag : Tag) : Bool := ["Stream", "Connection", "stream", "connection"].any fun name => tag.name = name.toList

-- The document is well formed, its values are the original ones and it has one element for
-- each stream or client.
structure Faithful (listed : Listed) (listing : Listing) : Prop where
  reads : Xml.read (listing.xml listed) = some (listing.document listed)
  rows : ((listing.document listed).filter isRow).Perm (listing.rows listed)

end Listing

end RingServer
