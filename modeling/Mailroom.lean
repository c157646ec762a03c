import Mailroom.Files.Tree
import Mailroom.Main
import Mailroom.Proofs.Address.OneLine
import Mailroom.Proofs.Address.RoundTrip
import Mailroom.Proofs.Command.Addressing
import Mailroom.Proofs.Command.Attempt
import Mailroom.Proofs.Command.Delivery
import Mailroom.Proofs.Command.DryRun
import Mailroom.Proofs.Config.Records
import Mailroom.Proofs.Header.Unfolding
import Mailroom.Proofs.Message.CarryOver
import Mailroom.Proofs.Message.Freshness
import Mailroom.Proofs.Message.Lines
import Mailroom.Proofs.Message.RawFields
import Mailroom.Proofs.Pattern.Unnumbered
import Mailroom.Proofs.Routing.Assignment
import Mailroom.Proofs.Routing.Breakdown
import Mailroom.Proofs.Routing.FirstMatch
import Mailroom.Proofs.Routing.Hidden
import Mailroom.Proofs.Routing.Wire
import Mailroom.Proofs.Rule.Grammar
import Mailroom.Proofs.Smtp.Envelope
import Mailroom.Proofs.Header.Spelling
import Mailroom.Proofs.Smtp.ServerName
import Mailroom.Proofs.Text.Margin
import Mailroom.Proofs.Rule.Rendering
import Mailroom.Proofs.Rule.Target
