/-!
# The word list of recovery phrases

The 2048 English words, in alphabetical order. A row holds an initial letter and what follows it in each word of the row.
-/

namespace DynamicFeeWallet.Phrase

/-- The rows of the list. -/
def wordRows : List (Char × String) := [
  ('a', "bandon bility ble bout bove bsent bsorb bstract bsurd buse ccess ccident ccount ccuse chieve cid coustic"),
  ('a', "cquire cross ct ction ctor ctress ctual dapt dd ddict ddress djust dmit dult dvance dvice erobic ffair"),
  ('a', "fford fraid gain ge gent gree head im ir irport isle larm lbum lcohol lert lien ll lley llow lmost lone"),
  ('a', "lpha lready lso lter lways mateur mazing mong mount mused nalyst nchor ncient nger ngle ngry nimal nkle"),
  ('a', "nnounce nnual nother nswer ntenna ntique nxiety ny part pology ppear pple pprove pril rch rctic rea rena"),
  ('a', "rgue rm rmed rmor rmy round rrange rrest rrive rrow rt rtefact rtist rtwork sk spect ssault sset ssist"),
  ('a', "ssume sthma thlete tom ttack ttend ttitude ttract uction udit ugust unt uthor uto utumn verage vocado void"),
  ('a', "wake ware way wesome wful wkward xis"),
  ('b', "aby achelor acon adge ag alance alcony all amboo anana anner ar arely argain arrel ase asic asket attle"),
  ('b', "each ean eauty ecause ecome eef efore egin ehave ehind elieve elow elt ench enefit est etray etter etween"),
  ('b', "eyond icycle id ike ind iology ird irth itter lack lade lame lanket last leak less lind lood lossom louse"),
  ('b', "lue lur lush oard oat ody oil omb one onus ook oost order oring orrow oss ottom ounce ox oy racket rain"),
  ('b', "rand rass rave read reeze rick ridge rief right ring risk roccoli roken ronze room rother rown rush ubble"),
  ('b', "uddy udget uffalo uild ulb ulk ullet undle unker urden urger urst us usiness usy utter uyer uzz"),
  ('c', "abbage abin able actus age ake all alm amera amp an anal ancel andy annon anoe anvas anyon apable apital"),
  ('c', "aptain ar arbon ard argo arpet arry art ase ash asino astle asual at atalog atch ategory attle aught ause"),
  ('c', "aution ave eiling elery ement ensus entury ereal ertain hair halk hampion hange haos hapter harge hase hat"),
  ('c', "heap heck heese hef herry hest hicken hief hild himney hoice hoose hronic huckle hunk hurn igar innamon"),
  ('c', "ircle itizen ity ivil laim lap larify law lay lean lerk lever lick lient liff limb linic lip lock log lose"),
  ('c', "loth loud lown lub lump luster lutch oach oast oconut ode offee oil oin ollect olor olumn ombine ome"),
  ('c', "omfort omic ommon ompany oncert onduct onfirm ongress onnect onsider ontrol onvince ook ool opper opy oral"),
  ('c', "ore orn orrect ost otton ouch ountry ouple ourse ousin over oyote rack radle raft ram rane rash rater rawl"),
  ('c', "razy ream redit reek rew ricket rime risp ritic rop ross rouch rowd rucial ruel ruise rumble runch rush ry"),
  ('c', "rystal ube ulture up upboard urious urrent urtain urve ushion ustom ute ycle"),
  ('d', "ad amage amp ance anger aring ash aughter awn ay eal ebate ebris ecade ecember ecide ecline ecorate"),
  ('d', "ecrease eer efense efine efy egree elay eliver emand emise enial entist eny epart epend eposit epth eputy"),
  ('d', "erive escribe esert esign esk espair estroy etail etect evelop evice evote iagram ial iamond iary ice"),
  ('d', "iesel iet iffer igital ignity ilemma inner inosaur irect irt isagree iscover isease ish ismiss isorder"),
  ('d', "isplay istance ivert ivide ivorce izzy octor ocument og oll olphin omain onate onkey onor oor ose ouble"),
  ('d', "ove raft ragon rama rastic raw ream ress rift rill rink rip rive rop rum ry uck umb une uring ust utch uty"),
  ('d', "warf ynamic"),
  ('e', "ager agle arly arn arth asily ast asy cho cology conomy dge dit ducate ffort gg ight ither lbow lder"),
  ('e', "lectric legant lement lephant levator lite lse mbark mbody mbrace merge motion mploy mpower mpty nable"),
  ('e', "nact nd ndless ndorse nemy nergy nforce ngage ngine nhance njoy nlist nough nrich nroll nsure nter ntire"),
  ('e', "ntry nvelope pisode qual quip ra rase rode rosion rror rupt scape ssay ssence state ternal thics vidence"),
  ('e', "vil voke volve xact xample xcess xchange xcite xclude xcuse xecute xercise xhaust xhibit xile xist xit"),
  ('e', "xotic xpand xpect xpire xplain xpose xpress xtend xtra ye yebrow"),
  ('f', "abric ace aculty ade aint aith all alse ame amily amous an ancy antasy arm ashion at atal ather atigue"),
  ('f', "ault avorite eature ebruary ederal ee eed eel emale ence estival etch ever ew iber iction ield igure ile"),
  ('f', "ilm ilter inal ind ine inger inish ire irm irst iscal ish it itness ix lag lame lash lat lavor lee light"),
  ('f', "lip loat lock loor lower luid lush ly oam ocus og oil old ollow ood oot orce orest orget ork ortune orum"),
  ('f', "orward ossil oster ound ox ragile rame requent resh riend ringe rog ront rost rown rozen ruit uel un unny"),
  ('f', "urnace ury uture"),
  ('g', "adget ain alaxy allery ame ap arage arbage arden arlic arment as asp ate ather auge aze eneral enius enre"),
  ('g', "entle enuine esture host iant ift iggle inger iraffe irl ive lad lance lare lass lide limpse lobe loom"),
  ('g', "lory love low lue oat oddess old ood oose orilla ospel ossip overn own rab race rain rant rape rass ravity"),
  ('g', "reat reen rid rief rit rocery roup row runt uard uess uide uilt uitar un ym"),
  ('h', "abit air alf ammer amster and appy arbor ard arsh arvest at ave awk azard ead ealth eart eavy edgehog"),
  ('h', "eight ello elmet elp en ero idden igh ill int ip ire istory obby ockey old ole oliday ollow ome oney ood"),
  ('h', "ope orn orror orse ospital ost otel our over ub uge uman umble umor undred ungry unt urdle urry urt usband"),
  ('h', "ybrid"),
  ('i', "ce con dea dentify dle gnore ll llegal llness mage mitate mmense mmune mpact mpose mprove mpulse nch"),
  ('i', "nclude ncome ncrease ndex ndicate ndoor ndustry nfant nflict nform nhale nherit nitial nject njury nmate"),
  ('i', "nner nnocent nput nquiry nsane nsect nside nspire nstall ntact nterest nto nvest nvite nvolve ron sland"),
  ('i', "solate ssue tem vory"),
  ('j', "acket aguar ar azz ealous eans elly ewel ob oin oke ourney oy udge uice ump ungle unior unk ust"),
  ('k', "angaroo een eep etchup ey ick id idney ind ingdom iss it itchen ite itten iwi nee nife nock now"),
  ('l', "ab abel abor adder ady ake amp anguage aptop arge ater atin augh aundry ava aw awn awsuit ayer azy eader"),
  ('l', "eaf earn eave ecture eft eg egal egend eisure emon end ength ens eopard esson etter evel iar iberty ibrary"),
  ('l', "icense ife ift ight ike imb imit ink ion iquid ist ittle ive izard oad oan obster ocal ock ogic onely ong"),
  ('l', "oop ottery oud ounge ove oyal ucky uggage umber unar unch uxury yrics"),
  ('m', "achine ad agic agnet aid ail ain ajor ake ammal an anage andate ango ansion anual aple arble arch argin"),
  ('m', "arine arket arriage ask ass aster atch aterial ath atrix atter aximum aze eadow ean easure eat echanic"),
  ('m', "edal edia elody elt ember emory ention enu ercy erge erit erry esh essage etal ethod iddle idnight ilk"),
  ('m', "illion imic ind inimum inor inute iracle irror isery iss istake ix ixed ixture obile odel odify om oment"),
  ('m', "onitor onkey onster onth oon oral ore orning osquito other otion otor ountain ouse ove ovie uch uffin ule"),
  ('m', "ultiply uscle useum ushroom usic ust utual yself ystery yth"),
  ('n', "aive ame apkin arrow asty ation ature ear eck eed egative eglect either ephew erve est et etwork eutral"),
  ('n', "ever ews ext ice ight oble oise ominee oodle ormal orth ose otable ote othing otice ovel ow uclear umber"),
  ('n', "urse ut"),
  ('o', "ak bey bject blige bscure bserve btain bvious ccur cean ctober dor ff ffer ffice ften il kay ld live"),
  ('o', "lympic mit nce ne nion nline nly pen pera pinion ppose ption range rbit rchard rder rdinary rgan rient"),
  ('o', "riginal rphan strich ther utdoor uter utput utside val ven ver wn wner xygen yster zone"),
  ('p', "act addle age air alace alm anda anel anic anther aper arade arent ark arrot arty ass atch ath atient"),
  ('p', "atrol attern ause ave ayment eace eanut ear easant elican en enalty encil eople epper erfect ermit erson"),
  ('p', "et hone hoto hrase hysical iano icnic icture iece ig igeon ill ilot ink ioneer ipe istol itch izza lace"),
  ('p', "lanet lastic late lay lease ledge luck lug lunge oem oet oint olar ole olice ond ony ool opular ortion"),
  ('p', "osition ossible ost otato ottery overty owder ower ractice raise redict refer repare resent retty revent"),
  ('p', "rice ride rimary rint riority rison rivate rize roblem rocess roduce rofit rogram roject romote roof"),
  ('p', "roperty rosper rotect roud rovide ublic udding ull ulp ulse umpkin unch upil uppy urchase urity urpose"),
  ('p', "urse ush ut uzzle yramid"),
  ('q', "uality uantum uarter uestion uick uit uiz uote"),
  ('r', "abbit accoon ace ack adar adio ail ain aise ally amp anch andom ange apid are ate ather aven aw azor eady"),
  ('r', "eal eason ebel ebuild ecall eceive ecipe ecord ecycle educe eflect eform efuse egion egret egular eject"),
  ('r', "elax elease elief ely emain emember emind emove ender enew ent eopen epair epeat eplace eport equire escue"),
  ('r', "esemble esist esource esponse esult etire etreat eturn eunion eveal eview eward hythm ib ibbon ice ich ide"),
  ('r', "idge ifle ight igid ing iot ipple isk itual ival iver oad oast obot obust ocket omance oof ookie oom ose"),
  ('r', "otate ough ound oute oyal ubber ude ug ule un unway ural"),
  ('s', "ad addle adness afe ail alad almon alon alt alute ame ample and atisfy atoshi auce ausage ave ay cale can"),
  ('s', "care catter cene cheme chool cience cissors corpion cout crap creen cript crub ea earch eason eat econd"),
  ('s', "ecret ection ecurity eed eek egment elect ell eminar enior ense entence eries ervice ession ettle etup"),
  ('s', "even hadow haft hallow hare hed hell heriff hield hift hine hip hiver hock hoe hoot hop hort houlder hove"),
  ('s', "hrimp hrug huffle hy ibling ick ide iege ight ign ilent ilk illy ilver imilar imple ince ing iren ister"),
  ('s', "ituate ix ize kate ketch ki kill kin kirt kull lab lam leep lender lice lide light lim logan lot low lush"),
  ('s', "mall mart mile moke mooth nack nake nap niff now oap occer ocial ock oda oft olar oldier olid olution olve"),
  ('s', "omeone ong oon orry ort oul ound oup ource outh pace pare patial pawn peak pecial peed pell pend phere"),
  ('s', "pice pider pike pin pirit plit poil ponsor poon port pot pray pread pring py quare queeze quirrel table"),
  ('s', "tadium taff tage tairs tamp tand tart tate tay teak teel tem tep tereo tick till ting tock tomach tone"),
  ('s', "tool tory tove trategy treet trike trong truggle tudent tuff tumble tyle ubject ubmit ubway uccess uch"),
  ('s', "udden uffer ugar uggest uit ummer un unny unset uper upply upreme ure urface urge urprise urround urvey"),
  ('s', "uspect ustain wallow wamp wap warm wear weet wift wim wing witch word ymbol ymptom yrup ystem"),
  ('t', "able ackle ag ail alent alk ank ape arget ask aste attoo axi each eam ell en enant ennis ent erm est ext"),
  ('t', "hank hat heme hen heory here hey hing his hought hree hrive hrow humb hunder icket ide iger ilt imber ime"),
  ('t', "iny ip ired issue itle oast obacco oday oddler oe ogether oilet oken omato omorrow one ongue onight ool"),
  ('t', "ooth op opic opple orch ornado ortoise oss otal ourist oward ower own oy rack rade raffic ragic rain"),
  ('t', "ransfer rap rash ravel ray reat ree rend rial ribe rick rigger rim rip rophy rouble ruck rue ruly rumpet"),
  ('t', "rust ruth ry ube uition umble una unnel urkey urn urtle welve wenty wice win wist wo ype ypical"),
  ('u', "gly mbrella nable naware ncle ncover nder ndo nfair nfold nhappy niform nique nit niverse nknown nlock"),
  ('u', "ntil nusual nveil pdate pgrade phold pon pper pset rban rge sage se sed seful seless sual tility"),
  ('v', "acant acuum ague alid alley alve an anish apor arious ast ault ehicle elvet endor enture enue erb erify"),
  ('v', "ersion ery essel eteran iable ibrant icious ictory ideo iew illage intage iolin irtual irus isa isit isual"),
  ('v', "ital ivid ocal oice oid olcano olume ote oyage"),
  ('w', "age agon ait alk all alnut ant arfare arm arrior ash asp aste ater ave ay ealth eapon ear easel eather eb"),
  ('w', "edding eekend eird elcome est et hale hat heat heel hen here hip hisper ide idth ife ild ill in indow ine"),
  ('w', "ing ink inner inter ire isdom ise ish itness olf oman onder ood ool ord ork orld orry orth rap reck restle"),
  ('w', "rist rite rong"),
  ('y', "ard ear ellow ou oung outh"),
  ('z', "ebra ero one oo")]

/-- The words in order; a word stands for its place in the list. -/
def wordList : List String :=
  wordRows.flatMap fun (initial, row) => (row.splitOn " ").map fun rest => initial.toString ++ rest

end DynamicFeeWallet.Phrase
