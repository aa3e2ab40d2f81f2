import AlertDetail.Calendar.Yearly
import AlertDetail.Calendar.Zone

/-!
# Table of time zones

Offsets of the zones that charts are drawn in: local mean time first, then every change up to the
last one that was decreed, then the yearly changes in force, spelled out up to the year 2099. From
then on clocks stay as they are. The decreed changes are listed as seconds since the start of the
year 1800 with the place of the new offset in the list of the zone's offsets. This module holds data
and its lookup only.
-/

namespace AlertDetail.Zone

/-- The start of the year 1800, in seconds since the epoch. -/
def tableOrigin : Int := (Date.mk 1800 1 1).number * daySeconds

/-- A zone from its row: the offset at first, all later offsets, the decreed changes and the yearly
ones. -/
def tabulate (name : String) (first : Int) (offsets : List Int) (decreed : List (Nat × Nat))
    (yearly : List (Int × Int)) : Zone where
  name := name
  first := first
  changes :=
    decreed.map (fun (seconds, place) => (tableOrigin + seconds, offsets.getD place 0)) ++ yearly

/-- Pacific time. -/
def losAngeles : Zone :=
  tabulate "America/Los_Angeles" (-28378) [-28800, -25200] [
    (2647022400, 0), (3731392800, 1), (3749533200, 0), (3762842400, 1), (3780982800, 0),
    (4484455200, 1), (4599277200, 0), (4676695260, 1), (4702006800, 0), (4743824400, 1),
    (4756525200, 0), (4775274000, 1), (4788579600, 0), (4806723600, 1), (4820029200, 0),
    (4838173200, 1), (4851478800, 0), (4869622800, 1), (4882928400, 0), (4901072400, 1),
    (4914378000, 0), (4933126800, 1), (4946432400, 0), (4964576400, 1), (4977882000, 0),
    (4996026000, 1), (5009331600, 0), (5027475600, 1), (5040781200, 0), (5058925200, 1),
    (5072230800, 0), (5090979600, 1), (5103680400, 0), (5122429200, 1), (5138154000, 0),
    (5153878800, 1), (5169603600, 0), (5185328400, 1), (5201053200, 0), (5216778000, 1),
    (5233107600, 0), (5248227600, 1), (5264557200, 0), (5280285600, 1), (5296006800, 0),
    (5311735200, 1), (5327456400, 0), (5343184800, 1), (5358906000, 0), (5374634400, 1),
    (5390355600, 0), (5406084000, 1), (5422410000, 0), (5438138400, 1), (5453859600, 0),
    (5469588000, 1), (5485309200, 0), (5491360800, 1), (5516758800, 0), (5527044000, 1),
    (5548208400, 0), (5563936800, 1), (5580262800, 0), (5595386400, 1), (5611712400, 0),
    (5627440800, 1), (5643162000, 0), (5658890400, 1), (5674611600, 0), (5690340000, 1),
    (5706061200, 0), (5721789600, 1), (5737510800, 0), (5753239200, 1), (5769565200, 0),
    (5784688800, 1), (5801014800, 0), (5816743200, 1), (5832464400, 0), (5848192800, 1),
    (5863914000, 0), (5879642400, 1), (5895363600, 0), (5909277600, 1), (5926813200, 0),
    (5940727200, 1), (5958867600, 0), (5972176800, 1), (5990317200, 0), (6003626400, 1),
    (6021766800, 0), (6035680800, 1), (6053216400, 0), (6067130400, 1), (6084666000, 0),
    (6098580000, 1), (6116720400, 0), (6130029600, 1), (6148170000, 0), (6161479200, 1),
    (6179619600, 0), (6193533600, 1), (6211069200, 0), (6224983200, 1), (6242518800, 0),
    (6256432800, 1), (6273968400, 0), (6287882400, 1), (6306022800, 0), (6319332000, 1),
    (6337472400, 0), (6350781600, 1), (6368922000, 0), (6382836000, 1), (6400371600, 0),
    (6414285600, 1), (6431821200, 0), (6445735200, 1), (6463875600, 0), (6477184800, 1),
    (6495325200, 0), (6508634400, 1), (6526774800, 0)]
    (YearlyChange.spelledOut
      [⟨3, 2, 0, 7200, -28800, -25200⟩,
       ⟨11, 1, 0, 7200, -25200, -28800⟩] 2007 93)

/-- British time. -/
def london : Zone :=
  tabulate "Europe/London" (-75) [0, 3600, 7200] [
    (1512000075, 0), (3672698400, 1), (3684189600, 0), (3700519200, 1), (3714516000, 0),
    (3730759200, 1), (3747175200, 0), (3762813600, 1), (3778624800, 0), (3794263200, 1),
    (3812493600, 0), (3826317600, 1), (3842128800, 0), (3857162400, 1), (3874096800, 0),
    (3891031200, 1), (3903732000, 0), (3921876000, 1), (3935786400, 0), (3953930400, 1),
    (3968445600, 0), (3985380000, 1), (3999895200, 0), (4016224800, 1), (4031344800, 0),
    (4048884000, 1), (4063399200, 0), (4080333600, 1), (4094848800, 0), (4111178400, 1),
    (4126298400, 0), (4143232800, 1), (4157748000, 0), (4174682400, 1), (4189197600, 0),
    (4205527200, 1), (4221252000, 0), (4238186400, 1), (4252701600, 0), (4269031200, 1),
    (4284151200, 0), (4301085600, 1), (4315600800, 0), (4332535200, 1), (4347050400, 0),
    (4363380000, 1), (4378500000, 0), (4395434400, 1), (4414183200, 0), (4422650400, 1),
    (4460144400, 2), (4468611600, 1), (4489174800, 2), (4500061200, 1), (4520624400, 2),
    (4532115600, 1), (4552074000, 2), (4566589200, 1), (4583610000, 2), (4592595600, 1),
    (4599856800, 0), (4616186400, 1), (4631306400, 0), (4645216800, 1), (4647632400, 2),
    (4657914000, 1), (4665175200, 0), (4676666400, 1), (4696624800, 0), (4709930400, 1),
    (4728074400, 0), (4742589600, 1), (4758919200, 0), (4774039200, 1), (4790368800, 0),
    (4806093600, 1), (4822423200, 0), (4837543200, 1), (4852058400, 0), (4868388000, 1),
    (4883508000, 0), (4900442400, 1), (4914957600, 0), (4932496800, 1), (4947012000, 0),
    (4963341600, 1), (4978461600, 0), (4995396000, 1), (5009911200, 0), (5026845600, 1),
    (5041360800, 0), (5057690400, 1), (5072810400, 0), (5087930400, 1), (5106679200, 0),
    (5119380000, 1), (5138128800, 0), (5151434400, 1), (5169578400, 0), (5182279200, 1),
    (5201028000, 0), (5213728800, 1), (5232477600, 0), (5245178400, 1), (5263927200, 0),
    (5276628000, 1), (5295981600, 0), (5305658400, 1), (5422384800, 0), (5434480800, 1),
    (5453834400, 0), (5465930400, 1), (5485284000, 0), (5497380000, 1), (5516733600, 0),
    (5528829600, 1), (5548183200, 0), (5560884000, 1), (5579632800, 0), (5592333600, 1),
    (5611082400, 0), (5623783200, 1), (5643136800, 0), (5655232800, 1), (5674586400, 0),
    (5686682400, 1), (5706036000, 0), (5719338000, 1), (5737482000, 0), (5750787600, 1),
    (5768931600, 0), (5782237200, 1), (5800381200, 0), (5813686800, 1), (5832435600, 0),
    (5845741200, 1), (5863885200, 0), (5877190800, 1), (5895334800, 0), (5908640400, 1),
    (5926784400, 0), (5940090000, 1), (5958234000, 0), (5971539600, 1), (5990288400, 0),
    (6002989200, 1), (6021738000, 0), (6035043600, 1), (6053187600, 0), (6066493200, 1),
    (6084637200, 0), (6097942800, 1), (6116086800, 0), (6129392400, 1), (6147536400, 0),
    (6160842000, 1), (6178986000, 0)]
    (YearlyChange.spelledOut
      [⟨3, 5, 0, 3600, 0, 3600⟩,
       ⟨10, 5, 0, 7200, 3600, 0⟩] 1996 104)

/-- Indian time. -/
def kolkata : Zone :=
  tabulate "Asia/Kolkata" (21208) [21200, 19270, 19800, 23400] [
    (1719425192, 0), (2208967600, 1), (3344956730, 2), (4473081000, 3), (4492603800, 2),
    (4502025000, 3), (4600517400, 2)] []

/-- Nepalese time. -/
def kathmandu : Zone :=
  tabulate "Asia/Kathmandu" (20476) [19800, 20700] [
    (3786718724, 0), (5869564200, 1)] []

/-- Japanese time. -/
def tokyo : Zone :=
  tabulate "Asia/Tokyo" (33539) [32400, 36000] [
    (2776950000, 0), (4680860400, 1), (4692351600, 0), (4709890800, 1), (4723801200, 0),
    (4744364400, 1), (4755250800, 0), (4775814000, 1), (4786700400, 0)] []

/-- Brasilia time. -/
def saoPaulo : Zone :=
  tabulate "America/Sao_Paulo" (-11188) [-10800, -7200] [
    (3597447988, 0), (4157704800, 1), (4173300000, 0), (4189287600, 1), (4204836000, 0),
    (4730842800, 1), (4742593200, 0), (4762378800, 1), (4772829600, 0), (4793914800, 1),
    (4804452000, 0), (4825537200, 1), (4833309600, 0), (5169236400, 1), (5180464800, 0),
    (5209498800, 1), (5214592800, 0), (5235764400, 1), (5243536800, 0), (5264708400, 1),
    (5275072800, 0), (5296244400, 1), (5306695200, 0), (5864410800, 1), (5875898400, 0),
    (5895255600, 1), (5904928800, 0), (5926791600, 1), (5935860000, 0), (5957636400, 1),
    (5966704800, 0), (5989086000, 1), (5999364000, 0), (6021140400, 1), (6031418400, 0),
    (6052590000, 1), (6062263200, 0), (6084644400, 1), (6093108000, 0), (6115489200, 1),
    (6126372000, 0), (6146938800, 1), (6157821600, 0), (6178388400, 1), (6188666400, 0),
    (6209233200, 1), (6220720800, 0), (6240769200, 1), (6253380000, 0), (6272737200, 1),
    (6284224800, 0), (6303582000, 1), (6316279200, 0), (6335636400, 1), (6347124000, 0),
    (6367690800, 1), (6378573600, 0), (6400954800, 1), (6410023200, 0), (6431194800, 1),
    (6441472800, 0), (6464026800, 1), (6473527200, 0), (6494094000, 1), (6504976800, 0),
    (6527358000, 1), (6537031200, 0), (6556993200, 1), (6567876000, 0), (6589047600, 1),
    (6599325600, 0), (6620497200, 1), (6631380000, 0), (6651946800, 1), (6662829600, 0),
    (6683396400, 1), (6694884000, 0), (6715450800, 1), (6725728800, 0), (6746900400, 1),
    (6757178400, 0), (6778350000, 1), (6789232800, 0), (6809799600, 1), (6820682400, 0),
    (6841249200, 1), (6852132000, 0), (6872698800, 1), (6883581600, 0), (6905962800, 1),
    (6915031200, 0)] []

/-- Cuban time. -/
def havana : Zone :=
  tabulate "America/Havana" (-19768) [-19776, -18000, -14400] [
    (2840160568, 0), (3961848576, 1), (4053128400, 2), (4063665600, 1), (4431128400, 2),
    (4438987200, 1), (4462578000, 2), (4471041600, 1), (4494632400, 2), (4502491200, 1),
    (4588981200, 2), (4596840000, 1), (4620430800, 2), (4628289600, 1), (5219960400, 2),
    (5230411200, 1), (5251237200, 2), (5262120000, 1), (5278366800, 2), (5291755200, 1),
    (5310507600, 2), (5323204800, 1), (5343166800, 2), (5358888000, 1), (5374616400, 2),
    (5390337600, 1), (5406066000, 2), (5422392000, 1), (5438120400, 2), (5452027200, 1),
    (5469570000, 2), (5483563200, 1), (5501019600, 2), (5515099200, 1), (5532469200, 2),
    (5548190400, 1), (5563918800, 2), (5580244800, 1), (5595368400, 2), (5611694400, 1),
    (5628027600, 2), (5641329600, 1), (5655243600, 2), (5673384000, 1), (5686693200, 2),
    (5704833600, 1), (5722981200, 2), (5736283200, 1), (5754430800, 2), (5767732800, 1),
    (5785880400, 2), (5799182400, 1), (5817330000, 2), (5831236800, 1), (5848779600, 2),
    (5862686400, 1), (5875995600, 2), (5894136000, 1), (5907445200, 2), (5925585600, 1),
    (5939499600, 2), (5957035200, 1), (5970949200, 2), (5988484800, 1), (6003608400, 2),
    (6020539200, 1), (6035662800, 2), (6051992400, 1), (6067112400, 2), (6083442000, 1),
    (6098562000, 2), (6114891600, 1), (6130011600, 2), (6146341200, 1), (6161461200, 2),
    (6177790800, 1), (6193515600, 2), (6209240400, 1), (6224965200, 2), (6241294800, 1),
    (6255810000, 2), (6273954000, 1), (6287259600, 2), (6306008400, 1), (6319314000, 2),
    (6337458000, 1), (6350763600, 2), (6368907600, 1), (6382818000, 2), (6400357200, 1),
    (6414267600, 2), (6431806800, 1), (6445112400, 2), (6526760400, 1), (6538251600, 2),
    (6558210000, 1), (6570306000, 2), (6589659600, 1), (6601150800, 2), (6621109200, 1),
    (6633205200, 2), (6653163600, 1), (6665259600, 2), (6685822800, 1), (6697918800, 2),
    (6716667600, 1)]
    (YearlyChange.spelledOut
      [⟨3, 2, 0, 0, -18000, -14400⟩,
       ⟨11, 1, 0, 3600, -14400, -18000⟩] 2013 87)

/-- Time of the Azores. -/
def azores : Zone :=
  tabulate "Atlantic/Azores" (-6160) [-6872, -7200, -3600, 0, 3600] [
    (2650758160, 0), (3534285600, 1), (3675114000, 2), (3686868000, 1), (3697236000, 2),
    (3716931600, 1), (3728772000, 2), (3748467600, 1), (3760308000, 2), (3780003600, 1),
    (3791930400, 2), (3811626000, 1), (3823466400, 2), (3843162000, 1), (3922218000, 2),
    (3936992400, 1), (3985376400, 2), (3999891600, 1), (4016221200, 2), (4031341200, 1),
    (4048275600, 2), (4063395600, 1), (4080330000, 2), (4094845200, 1), (4143229200, 2),
    (4157744400, 1), (4173469200, 2), (4189194000, 1), (4236973200, 2), (4252698000, 1),
    (4267818000, 2), (4284147600, 1), (4301082000, 2), (4315597200, 1), (4331322000, 2),
    (4347046800, 1), (4362166800, 2), (4378496400, 1), (4395430800, 2), (4414179600, 1),
    (4422646800, 2), (4442173200, 1), (4457725200, 2), (4473536400, 1), (4487360400, 2),
    (4490985600, 3), (4500662400, 2), (4506714000, 1), (4518810000, 2), (4521830400, 3),
    (4533321600, 2), (4538768400, 1), (4550259600, 2), (4553884800, 3), (4564771200, 2),
    (4570218000, 1), (4581709200, 2), (4585334400, 3), (4596220800, 2), (4601667600, 1),
    (4615578000, 2), (4631302800, 1), (4647038400, 2), (4662763200, 1), (4678488000, 2),
    (4694212800, 1), (4709937600, 2), (4725662400, 1), (4741387200, 2), (4757112000, 1),
    (4772836800, 2), (4789166400, 1), (4804891200, 2), (4820616000, 1), (4836340800, 2),
    (4852065600, 1), (4867790400, 2), (4883515200, 1), (4899240000, 2), (4914964800, 1),
    (4930689600, 2), (4947019200, 1), (4962744000, 2), (4978468800, 1), (4994193600, 2),
    (5009918400, 1), (5025643200, 2), (5041368000, 1), (5057092800, 2), (5072817600, 1),
    (5088542400, 2), (5104267200, 1), (5119992000, 2), (5136321600, 1), (5152046400, 2),
    (5167771200, 1), (5183496000, 2), (5199220800, 1), (5214945600, 2), (5230670400, 1),
    (5246395200, 2), (5750787600, 3), (5766512400, 2), (5782237200, 3), (5797962000, 2),
    (5813686800, 3), (5830016400, 2), (5845741200, 3), (5861466000, 2), (5877190800, 3),
    (5892915600, 2), (5908640400, 3), (5924365200, 2), (5940090000, 3), (5955814800, 2),
    (5971539600, 3), (5987264400, 2), (6002989200, 3), (6019318800, 2), (6035043600, 3),
    (6050768400, 2), (6066493200, 3), (6082218000, 2), (6090084000, 3), (6097942800, 4),
    (6104941200, 3), (6113667600, 2), (6129392400, 3), (6145117200, 2), (6160842000, 3),
    (6176566800, 2)]
    (YearlyChange.spelledOut
      [⟨3, 5, 0, 0, -3600, 0⟩,
       ⟨10, 5, 0, 3600, 0, -3600⟩] 1996 104)

/-- Eastern time. -/
def newYork : Zone :=
  tabulate "America/New_York" (-17762) [-18000, -14400] [
    (2647011600, 0), (3731382000, 1), (3749522400, 0), (3762831600, 1), (3780972000, 0),
    (3794281200, 1), (3813026400, 0), (3828150000, 1), (3841452000, 0), (3860204400, 1),
    (3872901600, 0), (3891654000, 1), (3904956000, 0), (3923103600, 1), (3936405600, 0),
    (3954553200, 1), (3967855200, 0), (3986002800, 1), (3999304800, 0), (4017452400, 1),
    (4030754400, 0), (4049506800, 1), (4062808800, 0), (4080956400, 1), (4094258400, 0),
    (4112406000, 1), (4125708000, 0), (4143855600, 1), (4157157600, 0), (4175305200, 1),
    (4188607200, 0), (4207359600, 1), (4220056800, 0), (4238809200, 1), (4252111200, 0),
    (4270258800, 1), (4283560800, 0), (4301708400, 1), (4315010400, 0), (4333158000, 1),
    (4346460000, 0), (4364607600, 1), (4377909600, 0), (4396662000, 1), (4409359200, 0),
    (4428111600, 1), (4441413600, 0), (4459561200, 1), (4472863200, 0), (4484444400, 1),
    (4599266400, 0), (4617414000, 1), (4630716000, 0), (4648863600, 1), (4662165600, 0),
    (4680313200, 1), (4693615200, 0), (4711762800, 1), (4725064800, 0), (4743817200, 1),
    (4756514400, 0), (4775266800, 1), (4788568800, 0), (4806716400, 1), (4820018400, 0),
    (4838166000, 1), (4851468000, 0), (4869615600, 1), (4882917600, 0), (4901065200, 1),
    (4917391200, 0), (4933119600, 1), (4948840800, 0), (4964569200, 1), (4980290400, 0),
    (4996018800, 1), (5011740000, 0), (5027468400, 1), (5043189600, 0), (5058918000, 1),
    (5075244000, 0), (5090972400, 1), (5106693600, 0), (5122422000, 1), (5138143200, 0),
    (5153871600, 1), (5169592800, 0), (5185321200, 1), (5201042400, 0), (5216770800, 1),
    (5233096800, 0), (5248220400, 1), (5264546400, 0), (5280274800, 1), (5295996000, 0),
    (5311724400, 1), (5327445600, 0), (5343174000, 1), (5358895200, 0), (5374623600, 1),
    (5390344800, 0), (5406073200, 1), (5422399200, 0), (5438127600, 1), (5453848800, 0),
    (5469577200, 1), (5485298400, 0), (5491350000, 1), (5516748000, 0), (5527033200, 1),
    (5548197600, 0), (5563926000, 1), (5580252000, 0), (5595375600, 1), (5611701600, 0),
    (5627430000, 1), (5643151200, 0), (5658879600, 1), (5674600800, 0), (5690329200, 1),
    (5706050400, 0), (5721778800, 1), (5737500000, 0), (5753228400, 1), (5769554400, 0),
    (5784678000, 1), (5801004000, 0), (5816732400, 1), (5832453600, 0), (5848182000, 1),
    (5863903200, 0), (5879631600, 1), (5895352800, 0), (5909266800, 1), (5926802400, 0),
    (5940716400, 1), (5958856800, 0), (5972166000, 1), (5990306400, 0), (6003615600, 1),
    (6021756000, 0), (6035670000, 1), (6053205600, 0), (6067119600, 1), (6084655200, 0),
    (6098569200, 1), (6116709600, 0), (6130018800, 1), (6148159200, 0), (6161468400, 1),
    (6179608800, 0), (6193522800, 1), (6211058400, 0), (6224972400, 1), (6242508000, 0),
    (6256422000, 1), (6273957600, 0), (6287871600, 1), (6306012000, 0), (6319321200, 1),
    (6337461600, 0), (6350770800, 1), (6368911200, 0), (6382825200, 1), (6400360800, 0),
    (6414274800, 1), (6431810400, 0), (6445724400, 1), (6463864800, 0), (6477174000, 1),
    (6495314400, 0), (6508623600, 1), (6526764000, 0)]
    (YearlyChange.spelledOut
      [⟨3, 2, 0, 7200, -18000, -14400⟩,
       ⟨11, 1, 0, 7200, -14400, -18000⟩] 2007 93)

/-- Newfoundland time. -/
def stJohns : Zone :=
  tabulate "America/St_Johns" (-12652) [-9052, -12652, -12600, -9000, -5400] [
    (3700531852, 0), (3714525052, 1), (3732586252, 0), (3749517052, 1), (3766012252, 0),
    (3774562252, 1), (3797375452, 0), (3813096652, 1), (3828825052, 0), (3844546252, 1),
    (3860879452, 0), (3875995852, 1), (3892329052, 0), (3907445452, 1), (3923778652, 0),
    (3938895052, 1), (3955228252, 0), (3970344652, 1), (3986677852, 0), (4002399052, 1),
    (4018127452, 0), (4033848652, 1), (4050181852, 0), (4065298252, 1), (4081631452, 0),
    (4096747852, 1), (4113081052, 0), (4128197452, 1), (4144530652, 0), (4159647052, 1),
    (4175980252, 0), (4191701452, 1), (4208034652, 0), (4223151052, 1), (4239484252, 0),
    (4254600652, 1), (4267740652, 2), (4270933800, 3), (4286050200, 2), (4302991800, 3),
    (4315689000, 2), (4334441400, 3), (4347138600, 2), (4365891000, 3), (4378588200, 2),
    (4397945400, 3), (4410037800, 2), (4429395000, 3), (4442092200, 2), (4460844600, 3),
    (4473541800, 2), (4492294200, 3), (4599261000, 2), (4618618200, 3), (4631315400, 2),
    (4650067800, 3), (4662765000, 2), (4681517400, 3), (4694214600, 2), (4712967000, 3),
    (4725664200, 2), (4745021400, 3), (4757718600, 2), (4775261400, 3), (4788563400, 2),
    (4806711000, 3), (4820013000, 2), (4838160600, 3), (4851462600, 2), (4869610200, 3),
    (4882912200, 2), (4901059800, 3), (4914361800, 2), (4933114200, 3), (4946416200, 2),
    (4964563800, 3), (4977865800, 2), (4996013400, 3), (5009315400, 2), (5027463000, 3),
    (5040765000, 2), (5058912600, 3), (5075238600, 2), (5090967000, 3), (5106688200, 2),
    (5122416600, 3), (5138137800, 2), (5153866200, 3), (5169587400, 2), (5185315800, 3),
    (5201037000, 2), (5216765400, 3), (5233091400, 2), (5248215000, 3), (5264541000, 2),
    (5280269400, 3), (5295990600, 2), (5311719000, 3), (5327440200, 2), (5343168600, 3),
    (5358889800, 2), (5374618200, 3), (5390339400, 2), (5406067800, 3), (5422393800, 2),
    (5438122200, 3), (5453843400, 2), (5469571800, 3), (5485293000, 2), (5501021400, 3),
    (5516742600, 2), (5532471000, 3), (5548192200, 2), (5563920600, 3), (5580246600, 2),
    (5595370200, 3), (5611696200, 2), (5627424600, 3), (5643145800, 2), (5658874200, 3),
    (5674595400, 2), (5690323800, 3), (5706045000, 2), (5721773400, 3), (5737494600, 2),
    (5753223000, 3), (5769549000, 2), (5784672600, 3), (5800998600, 2), (5816727000, 3),
    (5832448200, 2), (5848176600, 3), (5863897800, 2), (5879626200, 3), (5895347400, 2),
    (5909254260, 3), (5926789860, 2), (5940703860, 4), (5958840660, 2), (5972153460, 3),
    (5990293860, 2), (6003603060, 3), (6021743460, 2), (6035657460, 3), (6053193060, 2),
    (6067107060, 3), (6084642660, 2), (6098556660, 3), (6116697060, 2), (6130006260, 3),
    (6148146660, 2), (6161455860, 3), (6179596260, 2), (6193510260, 3), (6211045860, 2),
    (6224959860, 3), (6242495460, 2), (6256409460, 3), (6273945060, 2), (6287859060, 3),
    (6305999460, 2), (6319308660, 3), (6337449060, 2), (6350758260, 3), (6368898660, 2),
    (6382812660, 3), (6400348260, 2), (6414262260, 3), (6431797860, 2), (6445711860, 3),
    (6463852260, 2), (6477161460, 3), (6495301860, 2), (6508611060, 3), (6526751460, 2),
    (6538246260, 3), (6558805860, 2), (6569695860, 3), (6590255460, 2), (6601145460, 3),
    (6621705060, 2), (6633199860, 3), (6653759460, 2), (6664649460, 3), (6685216200, 2)]
    (YearlyChange.spelledOut
      [⟨3, 2, 0, 7200, -12600, -9000⟩,
       ⟨11, 1, 0, 7200, -9000, -12600⟩] 2012 88)

/-- Samoan time; the clocks skipped a whole day at the end of 2011. -/
def apia : Zone :=
  tabulate "Pacific/Apia" (45184) [-41216, -41400, -39600, -36000, 50400, 46800] [
    (2919238016, 0), (3502783616, 1), (4733551800, 2), (6650161200, 3), (6666415200, 2),
    (6681535200, 3), (6689901600, 4), (6697864800, 5), (6713589600, 4), (6729919200, 5),
    (6745039200, 4), (6761368800, 5), (6776488800, 4), (6792818400, 5), (6807938400, 4),
    (6824268000, 5), (6839388000, 4), (6855717600, 5), (6870837600, 4), (6887167200, 5),
    (6902892000, 4), (6919221600, 5), (6934341600, 4), (6950671200, 5), (6965791200, 4),
    (6982120800, 5)] []

/-- Time of the Line Islands; the clocks skipped a whole day at the end of 1994. -/
def kiritimati : Zone :=
  tabulate "Pacific/Kiritimati" (-37760) [-38400, -36000, 50400] [
    (3187247360, 0), (5672284800, 1), (6153530400, 2)] []

/-- Time of Lord Howe Island, where summer moves the clocks by half an hour. -/
def lordHowe : Zone :=
  tabulate "Australia/Lord_Howe" (38180) [36000, 37800, 41400, 39600] [
    (3000547420, 0), (5716879200, 1), (5737447800, 2), (5748935400, 1), (5769502200, 2),
    (5780385000, 1), (5800951800, 2), (5811834600, 1), (5832401400, 2), (5843284200, 1),
    (5863851000, 3), (5875945200, 1), (5894695800, 3), (5907394800, 1), (5926750200, 3),
    (5939449200, 1), (5958804600, 3), (5970898800, 1), (5990254200, 3), (6001138800, 1),
    (6021703800, 3), (6032588400, 1), (6053153400, 3), (6064038000, 1), (6084603000, 3),
    (6096092400, 1), (6116657400, 3), (6127542000, 1), (6148107000, 3), (6158991600, 1),
    (6179556600, 3), (6192860400, 1), (6211006200, 3), (6224310000, 1), (6242455800, 3),
    (6255759600, 1), (6273905400, 3), (6287209200, 1), (6305959800, 3), (6318658800, 1),
    (6331966200, 3), (6350108400, 1), (6368859000, 3), (6382162800, 1), (6400308600, 3),
    (6413612400, 1), (6431758200, 3), (6445062000, 1), (6463812600, 3), (6476511600, 1),
    (6495262200, 3), (6508566000, 1), (6526711800, 3), (6539410800, 1), (6558161400, 3)]
    (YearlyChange.spelledOut
      [⟨4, 1, 0, 7200, 39600, 37800⟩,
       ⟨10, 1, 0, 7200, 37800, 39600⟩] 2008 92)

/-- Egyptian time. -/
def cairo : Zone :=
  tabulate "Africa/Cairo" (7509) [7200, 10800] [
    (3179253291, 0), (4434818400, 1), (4441554000, 0), (4458492000, 1), (4471794000, 0),
    (4488818400, 1), (4506872400, 0), (4520354400, 1), (4538840400, 0), (4551976800, 1),
    (4570462800, 0), (4584808800, 1), (4601998800, 0), (4965573600, 1), (4978011600, 0),
    (4996332000, 1), (5009547600, 0), (5027871600, 1), (5041008000, 0), (5059494000, 1),
    (5072630400, 0), (5091030000, 1), (5104166400, 0), (5122566000, 1), (5135702400, 0),
    (5154102000, 1), (5167238400, 0), (5185724400, 1), (5198860800, 0), (5217260400, 1),
    (5230396800, 0), (5248796400, 1), (5262019200, 0), (5280332400, 1), (5293555200, 0),
    (5311954800, 1), (5325177600, 0), (5343490800, 1), (5356713600, 0), (5375026800, 1),
    (5388249600, 0), (5406562800, 1), (5419785600, 0), (5438185200, 1), (5451408000, 0),
    (5469721200, 1), (5482944000, 0), (5501257200, 1), (5514480000, 0), (5532793200, 1),
    (5546016000, 0), (5564415600, 1), (5577638400, 0), (5595951600, 1), (5609174400, 0),
    (5627487600, 1), (5640710400, 0), (5659023600, 1), (5672246400, 0), (5690646000, 1),
    (5703868800, 0), (5722182000, 1), (5735404800, 0), (5761062000, 1), (5766940800, 0),
    (5791474800, 1), (5798476800, 0), (5816876400, 1), (5830099200, 0), (5848412400, 1),
    (5861635200, 0), (5879948400, 1), (5893171200, 0), (5911484400, 1), (5924707200, 0),
    (5943106800, 1), (5956329600, 0), (5975074800, 1), (5987865600, 0), (6006178800, 1),
    (6019401600, 0), (6037714800, 1), (6050937600, 0), (6069337200, 1), (6082560000, 0),
    (6100873200, 1), (6114096000, 0), (6132409200, 1), (6145632000, 0), (6163682400, 1),
    (6176984400, 0), (6195132000, 1), (6208434000, 0), (6226581600, 1), (6239883600, 0),
    (6258031200, 1), (6271333200, 0), (6290085600, 1), (6303387600, 0), (6321535200, 1),
    (6334837200, 0), (6352984800, 1), (6366286800, 0), (6384434400, 1), (6397736400, 0),
    (6415884000, 1), (6429186000, 0), (6447938400, 1), (6461240400, 0), (6479388000, 1),
    (6492690000, 0), (6510837600, 1), (6523534800, 0), (6542287200, 1), (6553774800, 0),
    (6573736800, 1), (6584619600, 0), (6605186400, 1), (6615464400, 0), (6637240800, 1),
    (6646136400, 0), (6648732000, 1), (6650542800, 0), (6764853600, 1), (6768478800, 0),
    (6771506400, 1), (6776341200, 0)]
    (YearlyChange.spelledOut
      [⟨4, 5, 5, 0, 7200, 10800⟩,
       ⟨10, 5, 4, 86400, 10800, 7200⟩] 2023 77)

/-- The zones of the table by name. -/
def tabulated : List Zone :=
  [utc, losAngeles, london, kolkata, kathmandu, tokyo, saoPaulo, havana, azores, newYork,
    stJohns, apia, kiritimati, lordHowe, cairo]

/-- Other names of zones of the table. -/
def aliases : List (String × Zone) :=
  [("Asia/Calcutta", kolkata), ("Asia/Katmandu", kathmandu), ("Australia/LHI", lordHowe),
    ("Brazil/East", saoPaulo), ("Canada/Newfoundland", stJohns), ("Cuba", havana),
    ("Egypt", cairo), ("Etc/GMT", utc), ("Etc/GMT+0", utc), ("Etc/GMT-0", utc), ("Etc/GMT0", utc),
    ("Etc/Greenwich", utc), ("Etc/UCT", utc), ("Etc/UTC", utc), ("Etc/Universal", utc),
    ("Etc/Zulu", utc), ("Europe/Belfast", london), ("GB", london), ("GB-Eire", london),
    ("GMT", utc), ("GMT+0", utc), ("GMT-0", utc), ("GMT0", utc), ("Greenwich", utc),
    ("Japan", tokyo), ("UCT", utc), ("US/Eastern", newYork), ("US/Pacific", losAngeles),
    ("Universal", utc), ("Zulu", utc)]

/-- The zone of the table that a name stands for. Names are matched exactly. -/
def ofTable? (name : String) : Option Zone :=
  (tabulated.find? (·.name = name)).or <| (aliases.lookup name).map fun zone => { zone with name }

end AlertDetail.Zone
