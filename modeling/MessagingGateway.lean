import MessagingGateway.Domain.History
import MessagingGateway.Dispatch.Dispatchers
import MessagingGateway.Evidence.Quarantine
import MessagingGateway.Evidence.Capacity
import MessagingGateway.Webhook.DeadLetters
import MessagingGateway.Messaging.NewChats
import MessagingGateway.Backfill.Pages
import MessagingGateway.Cursors.Cycles
import MessagingGateway.Actor.Exclusion
import MessagingGateway.Actor.Authorization
import MessagingGateway.Actor.Persistence
import MessagingGateway.Pairing.Episodes
import MessagingGateway.Messaging.Identity
import MessagingGateway.Provider.SessionCodec
import MessagingGateway.Client.Backlog
import MessagingGateway.Client.Announcements
import MessagingGateway.Media.Raster
import MessagingGateway.Actor.Backoff
import MessagingGateway.Client.Deduplication
import MessagingGateway.Client.Framing
import MessagingGateway.Media.Requests
import MessagingGateway.Webhook.Cycles
import MessagingGateway.Webhook.FanOut
import MessagingGateway.Webhook.Recording
import MessagingGateway.Client.Downloads
import MessagingGateway.Crypto.Requests
import MessagingGateway.Client.AckQueue
